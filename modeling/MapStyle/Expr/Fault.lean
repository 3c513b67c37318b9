import MapStyle.Expr.Basic
/-!
# Why an expression has no value

Each fault is a cause, with the values that show it. The wording is in one place.
-/

namespace MapStyle.Expr

/-- Why an expression has no value. -/
inductive Fault where
  | unreadable (source : String)
  /-- A path does not lead to one value. -/
  | path (fault : Path.Fault)
  /-- The test of a conditional is not a truth value. -/
  | test (value : Value)
  /-- An operator in front does not apply to its operand. -/
  | unaryOperand (op : UnaryOp) (value : Value)
  /-- Two values cannot be added. -/
  | addends (lhs rhs : Value)
  /-- An operator on numbers got something else. -/
  | numberOperands (op : BinaryOp) (lhs rhs : Value)
  /-- A match needs a pattern on one side and a text on the other. -/
  | matchOperands (op : BinaryOp) (lhs rhs : Value)
  /-- A call has too few arguments. -/
  | fewArguments (function : String) (needed given : Nat)
  /-- A function of two numbers got something else. -/
  | numberArguments (function : String) (lhs rhs : Value)
  | numberArgument (function : String) (position : Nat) (value : Value)
  /-- A function of numbers and arrays of numbers got something else. -/
  | vectorArgument (function : String) (value : Value)
  | color (value : Value)
  | pattern
  /-- A method of patterns needs a text. -/
  | subject (method : String) (pattern argument : Value)
  | unknownFunction (name : String)
  deriving Repr

namespace Fault

def quoted (s : String) : String := "\"" ++ s ++ "\""

/-- The kind of value that an operator in front asks for. -/
def wanted : UnaryOp → String
  | .not => "boolean"
  | .negate => "number"
  | .plus => "number"

def message : Fault → String
  | unreadable source => "failed to parse `" ++ source ++ "`"
  | path fault => fault.message
  | test v =>
    "Conditional argument of conditional expression must be a boolean. Argument is " ++ v.text ++
      "."
  | unaryOperand op v =>
    "Operator " ++ quoted op.symbol ++ " requires a " ++ wanted op ++ " argument. Argument is " ++
      v.text ++ "."
  | addends v w =>
    "Operator \"+\" requires number arguments, or at least one string argument. Arguments are " ++
      v.text ++ " and " ++ w.text ++ "."
  | numberOperands op v w =>
    "Operator " ++ quoted op.symbol ++ " requires number arguments. Arguments are " ++ v.text ++
      " and " ++ w.text ++ "."
  | matchOperands op v w =>
    "Operator " ++ quoted op.symbol ++
      " requires one RegExp argument and one string argument. Arguments are " ++ v.text ++
      " and " ++ w.text ++ "."
  | fewArguments function needed given =>
    "Function " ++ quoted function ++ " expects at least " ++ toString needed ++
      " argument(s), got " ++ toString given
  | numberArguments function v w =>
    "Function " ++ quoted function ++ " requires number arguments. Arguments are " ++ v.text ++
      " and " ++ w.text ++ "."
  | numberArgument function position v =>
    "Function " ++ quoted function ++ " requires number arguments. Argument " ++
      toString position ++ " is " ++ v.text ++ "."
  | vectorArgument function v =>
    "Function " ++ quoted function ++ " requires a vector or number argument. Argument is " ++
      v.text ++ "."
  | color v => "wrong literalColor call " ++ quoted ("color(" ++ v.text ++ ")")
  | pattern => "Failed to execute the Regex"
  | subject name p v =>
    "RegExp." ++ name ++
      " requires the first argument to be a RegExp and the second argument to be a string. " ++
      "Arguments are " ++ p.text ++ " and " ++ v.text ++ "."
  | unknownFunction name => "Unexpected function call " ++ quoted name ++ "."

end Fault

end MapStyle.Expr
