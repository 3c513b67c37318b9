import MapStyle.Path.Basic
import MapStyle.Expr.Value
/-!
# Expressions

The trees that style expressions denote. Parentheses and blanks leave no trace in a tree, and a
member that is named after a point is the member with that text as its key.
-/

namespace MapStyle

/-- A value that is written out. -/
inductive Expr.Literal where
  | undefined
  | null
  | bool (b : Bool)
  | number (x : Float)
  | string (s : String)
  deriving Repr

/-- An operator in front of its operand. -/
inductive Expr.UnaryOp where
  | not
  | negate
  | plus
  deriving Repr, DecidableEq

/-- An operator between its operands. -/
inductive Expr.BinaryOp where
  | add
  | sub
  | mul
  | div
  | mod
  | strictEq
  | strictNe
  | lt
  | le
  | gt
  | ge
  | and
  | or
  | matching
  | notMatching
  deriving Repr, DecidableEq

inductive Expr where
  | literal (value : Expr.Literal)
  | placeholder (name : String)
  /-- The one value that a path leads to from the properties of the scope. -/
  | path (path : Path)
  /-- The properties of the scope as an object. -/
  | feature
  | array (items : List Expr)
  | unary (op : Expr.UnaryOp) (operand : Expr)
  | binary (op : Expr.BinaryOp) (lhs rhs : Expr)
  /-- The second expression where the first is true, and the third where it is false. -/
  | conditional (test consequent alternate : Expr)
  | member (object key : Expr)
  | call (name : String) (args : List Expr)
  | method (object : Expr) (name : String) (args : List Expr)
  deriving Repr

namespace Expr

def UnaryOp.symbol : UnaryOp → String
  | not => "!"
  | negate => "-"
  | plus => "+"

def BinaryOp.symbol : BinaryOp → String
  | add => "+"
  | sub => "-"
  | mul => "*"
  | div => "/"
  | mod => "%"
  | strictEq => "==="
  | strictNe => "!=="
  | lt => "<"
  | le => "<="
  | gt => ">"
  | ge => ">="
  | and => "&&"
  | or => "||"
  | matching => "=~"
  | notMatching => "!~"

def Literal.value : Literal → Value
  | undefined => .undefined
  | null => .null
  | bool b => .bool b
  | number x => .number x
  | string s => .string s

end Expr

end MapStyle
