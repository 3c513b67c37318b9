import MapStyle.Color.Css
import MapStyle.Expr.Fault
/-!
# Functions

The functions that expressions can call: functions of one number, which act on arrays item by item,
functions of two numbers, conversions, colours and patterns.
-/

namespace MapStyle.Expr

/-! ## Functions of numbers -/

/-- The sign of a number: one, minus one, or the zero or NaN itself. -/
def signOf (x : Float) : Float := if 0 < x then 1 else if x < 0 then -1 else x

/-- The functions of one number. A half is rounded up, and the fractional part is never negative. -/
def unaryFunction? : String → Option (Float → Float)
  | "abs" => some Float.abs
  | "sqrt" => some Float.sqrt
  | "cos" => some Float.cos
  | "sin" => some Float.sin
  | "tan" => some Float.tan
  | "acos" => some Float.acos
  | "asin" => some Float.asin
  | "atan" => some Float.atan
  | "radians" => some fun x ↦ x * (3.141592653589793 / 180)
  | "degrees" => some fun x ↦ x * 57.29577951308232
  | "sign" => some signOf
  | "floor" => some Float.floor
  | "ceil" => some Float.ceil
  | "round" => some fun x ↦ (x + 0.5).floor
  | "exp" => some Float.exp
  | "exp2" => some Float.exp2
  | "log" => some Float.log
  | "log2" => some Float.log2
  | "fract" => some fun x ↦ x - x.floor
  | _ => none

/-- The lesser number; a NaN counts only beside another. -/
def lesser (x y : Float) : Float := if x.isNaN then y else if y < x then y else x

/-- The greater number; a NaN counts only beside another. -/
def greater (x y : Float) : Float := if x.isNaN then y else if x < y then y else x

def binaryFunction? : String → Option (Float → Float → Float)
  | "atan2" => some Float.atan2
  | "pow" => some Float.pow
  | "min" => some lesser
  | "max" => some greater
  | _ => none

mutual

/-- A function of one number applied to a number, or to every item of an array at any depth. -/
def componentwise (name : String) (f : Float → Float) : Value → Except Fault Value
  | .number x => .ok (.number (f x))
  | .array items => (componentwiseItems name f items).map .array
  | v => .error (.vectorArgument name v)

@[inherit_doc componentwise]
def componentwiseItems (name : String) (f : Float → Float) :
    List Value → Except Fault (List Value)
  | [] => .ok []
  | v :: rest => do
    let v ← componentwise name f v
    let rest ← componentwiseItems name f rest
    pure (v :: rest)

end

/-! ## Arguments -/

def argument (name : String) (args : List Value) (position : Nat) : Except Fault Value :=
  match args[position]? with
  | some v => .ok v
  | none => .error (.fewArguments name (position + 1) args.length)

/-- The argument at a position, which has to be a number. -/
def numberArgument (name : String) (args : List Value) (position : Nat) : Except Fault Float := do
  let v ← argument name args position
  match v.number? with
  | some x => pure x
  | none => .error (.numberArgument name position v)

/-! ## Colours and patterns -/

/-- The colour that a text and an opacity make; opaque white if nothing is given. -/
def cssColor (args : List Value) : Except Fault Color :=
  match args with
  | [] => .ok Color.white
  | css :: rest =>
    match css.string?.bind Color.ofCss? with
    | none => .error (.color css)
    | some color =>
      if rest.isEmpty then .ok color
      else do
        let alpha ← numberArgument "color" args 1
        pure { color with alpha }

/-- The colour that a call of a colour function makes, for the names that are colour functions. -/
def colorFunction? (name : String) (args : List Value) : Option (Except Fault Color) :=
  let part := numberArgument name args
  match name with
  | "color" => some (cssColor args)
  | "rgb" => some do return .ofBytes (← part 0) (← part 1) (← part 2) 255
  | "rgba" => some do return .ofBytes (← part 0) (← part 1) (← part 2) ((← part 3) * 255)
  | "hsl" => some do return .ofHsl (← part 0) (← part 1) (← part 2) 1
  | "hsla" => some do return .ofHsl (← part 0) (← part 1) (← part 2) (← part 3)
  | _ => none

/-- The text that an optional argument of a pattern gives; none is given by `undefined`. -/
def patternText : Option Value → String
  | none => ""
  | some .undefined => ""
  | some v => v.text

/-- The pattern that a text and flags denote. -/
def makePattern (site : List Nat) (args : List Value) : Except Fault Value :=
  match Pattern.compile? site (patternText args[0]?) (patternText args[1]?) with
  | some p => .ok (.pattern p)
  | none => .error .pattern

/-! ## Calls -/

/-- The functions that take any value as their first argument. -/
def conversion? (v : Value) : String → Option Value
  | "Boolean" => some (.bool v.truthy)
  | "Number" => some (.number v.toNumber)
  | "String" => some (.string v.text)
  | "isNaN" => some (.bool v.toNumber.isNaN)
  | "isFinite" => some (.bool v.toNumber.isFinite)
  | _ => none

/-- The value of a call of a function of two numbers. -/
def callBinary (name : String) (f : Float → Float → Float) (args : List Value) :
    Except Fault Value := do
  let v ← argument name args 0
  let w ← argument name args 1
  match v, w with
  | .number x, .number y => pure (.number (f x y))
  | _, _ => .error (.numberArguments name v w)

/-- The value of a call. A pattern that the call makes is marked with the given place. -/
def callFunction (site : List Nat) (name : String) (args : List Value) : Except Fault Value :=
  match unaryFunction? name with
  | some f => do componentwise name f (← argument name args 0)
  | none =>
    match binaryFunction? name with
    | some f => callBinary name f args
    | none =>
      match conversion? (args.head?.getD .undefined) name with
      | some v => .ok v
      | none =>
        match colorFunction? name args with
        | some color => color.map fun c ↦ .string c.toHex
        | none =>
          if name = "regExp" then makePattern site args else .error (.unknownFunction name)

/-- The value of a call of a method. Only patterns have methods. -/
def callMethod (target : Value) (name : String) (args : List Value) : Except Fault Value :=
  match target with
  | .pattern p =>
    if name = "toString" then .ok (.string p.text)
    else if name = "test" || name = "exec" then
      match args with
      | .string s :: _ =>
        if name = "test" then .ok (.bool (p.test s))
        else
          match p.firstGroup? s with
          | none => .ok .null
          | some none => .ok .undefined
          | some (some group) => .ok (.string group)
      | _ => .error (.subject name target (args.head?.getD .undefined))
    else .error (.unknownFunction name)
  | _ => .error (.unknownFunction name)

end MapStyle.Expr
