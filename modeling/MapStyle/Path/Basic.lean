import MapStyle.Json.Access
/-!
# Paths into JSON values

A path leads from one value to a list of values below it, step by step. A step may lead to nothing,
to one value or to many; what every value of the list leads to is collected in order. A path that
is used as an expression must lead to exactly one value.
-/

namespace MapStyle

/-- One step of a path. -/
inductive Path.Segment where
  /-- The member of an object, or the item of an array at a spelled position. -/
  | child (name : String)
  /-- The item of an array at a position; a negative one counts from the end. -/
  | index (position : Int)
  /-- Every `step`-th item from `start` up to but not including `stop`. -/
  | slice (start stop step : Option Int)
  | wildcard
  /-- Every member of the given name at any depth. -/
  | descendant (name : String)
  deriving Repr, DecidableEq

/-- A path, with the text it was read from. -/
structure Path where
  source : String
  segments : List Path.Segment
  deriving Repr, DecidableEq

/-- Why a path gives no value. -/
inductive Path.Fault where
  | unreadable (source : String)
  /-- The path leads nowhere. -/
  | nothing (source : String)
  /-- The path leads to several values. -/
  | several (source : String) (count : Nat)
  deriving Repr, DecidableEq

namespace Path

def Fault.message : Fault → String
  | unreadable source => "invalid path `" ++ source ++ "`"
  | nothing source => source ++ " gives none"
  | several source count => source ++ " should give only one result, got " ++ toString count

/-- Every item at a distance from the first one that `step + 1` divides. -/
def everyNth (step : Nat) : List Json → List Json
  | [] => []
  | v :: rest => v :: everyNth step (rest.drop step)
termination_by items => items.length
decreasing_by simp only [List.length_drop, List.length_cons]; omega

/-- The end of a slice as a position in a list of the given length. -/
def bound (length : Int) (i : Int) : Int := if i < 0 then max (length + i) 0 else min i length

/-- The items that a slice selects. A step below one counts as one. -/
def sliceOf (start stop step : Option Int) (items : List Json) : List Json :=
  let length : Int := items.length
  let first := (start.map (bound length)).getD 0
  let last := (stop.map (bound length)).getD length
  everyNth ((max (step.getD 1) 1).toNat - 1) ((items.take last.toNat).drop first.toNat)

mutual

/-- The members of the given name in a value and in everything below it: of an object first its own
member, then those below its members in order. -/
def descendants (name : String) : Json → List Json
  | .object members => (Table.get? members name).toList ++ descendantsOfMembers name members
  | .array items => descendantsOfItems name items
  | _ => []

@[inherit_doc descendants]
def descendantsOfItems (name : String) : List Json → List Json
  | [] => []
  | v :: rest => descendants name v ++ descendantsOfItems name rest

@[inherit_doc descendants]
def descendantsOfMembers (name : String) : List (String × Json) → List Json
  | [] => []
  | (_, v) :: rest => descendants name v ++ descendantsOfMembers name rest

end

/-- The values that one step leads to from a value. -/
def Segment.select : Segment → Json → List Json
  | child name, v => (v.child? name).toList
  | index i, .array items =>
    let resolved := if i < 0 then (items.length : Int) + i else i
    if 0 ≤ resolved then (items[resolved.toNat]?).toList else []
  | slice start stop step, .array items => sliceOf start stop step items
  | wildcard, v => v.children
  | descendant name, v => descendants name v
  | _, _ => []

def select (path : Path) (root : Json) : List Json :=
  path.segments.foldl (fun values segment ↦ values.flatMap segment.select) [root]

/-- The one value that the path leads to. -/
def selectOne (path : Path) (root : Json) : Except Fault Json :=
  match path.select root with
  | [] => .error (.nothing path.source)
  | [v] => .ok v
  | values => .error (.several path.source values.length)

end Path

end MapStyle
