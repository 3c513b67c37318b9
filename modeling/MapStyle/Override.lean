import MapStyle.Styling.Eval
/-!
# Overrides

Owners may override appearance fields of all features of a layer. Overrides are merged when a layer
is looked at. A later override wins over an earlier one, and the override without an owner's name
lies below all others.
-/

namespace MapStyle

/-- Overrides with their owners, the one that wins last. -/
structure Overrides where
  /-- The overridden categories of each owner. -/
  entries : List (String × Table Json) := []
  deriving Repr

namespace Overrides

/-- The part of a value that can override: the members named for appearance categories. -/
def permitted : Json → Table Json
  | .object members => members.filter fun m ↦ (Category.ofKey? m.1).isSome
  | _ => []

/-- The value under a key that is merged from a base value and an overriding one: of two objects the
members of the overriding one are assigned over those of the base, and all else is replaced. -/
def mergeMember : Option Json → Json → Json
  | some (.object base), .object top =>
    .object (top.foldl (fun t m ↦ Table.insert m.1 m.2 t) base)
  | _, top => top

/-- Merges two levels of objects. Where a side is no object, the overriding side is taken whole. -/
def merge : Json → Json → Json
  | .object base, .object top =>
    .object (top.foldl (fun t m ↦ Table.insert m.1 (mergeMember (Table.get? t m.1) m.2) t) base)
  | _, top => top

/-- Sets the override of an owner, or removes it. A named owner gets to the top. -/
def set (o : Overrides) (owner : String) (value : Option Json) : Overrides :=
  let others := o.entries.filter fun e ↦ e.1 != owner
  match value with
  | none => { entries := others }
  | some v =>
    if owner = "" then { entries := ("", permitted v) :: others }
    else { entries := others ++ [(owner, permitted v)] }

/-- The owners from the bottom to the top. -/
def owners (o : Overrides) : List String := o.entries.map (·.1)

def isEmpty (o : Overrides) : Bool := o.entries.isEmpty

/-- All overrides merged from the bottom to the top, if there are any. -/
def merged? (o : Overrides) : Option Json :=
  if o.isEmpty then none
  else some (o.entries.foldl (fun below e ↦ merge below (.object e.2)) (.object []))

/-- A feature with its appearance overridden. -/
def override (f : StyledFeature) (top : Json) : StyledFeature :=
  { f with appearances := Appearances.ofJson (merge f.appearances.toJson top) }

def apply (o : Overrides) (f : StyledFeature) : StyledFeature :=
  match o.merged? with
  | none => f
  | some top => override f top

end Overrides

end MapStyle
