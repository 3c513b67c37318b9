/-!
# TOML documents

The values of a TOML document, and how its tables come about. A table is opened by a header, implied
by the header of a table inside it, or begun by a dotted key. Each of these may be done once only:
the rules on what may be added to a table later are those of the way it came about.
-/

namespace MapStyle

/-- How a table came about. -/
inductive Toml.Origin where
  /-- By a header of its own, or as the document itself. -/
  | header
  /-- By the header of a table inside it. -/
  | implied
  | dotted
  deriving Repr, DecidableEq

/-- A value of a TOML document. -/
inductive Toml where
  | string (s : String)
  | integer (n : Int)
  | float (x : Float)
  | bool (b : Bool)
  /-- A date, a time, or both. -/
  | moment (text : String)
  | array (items : List Toml)
  /-- A table in braces, to which nothing can be added. -/
  | inline (entries : List (String × Toml))
  | table (origin : Toml.Origin) (entries : List (String × Toml))
  /-- An array of tables, each with a header of its own. -/
  | tables (items : List (List (String × Toml)))
  deriving Repr

namespace Toml

/-- The entries of a table, in the order in which they were given. -/
abbrev Entries := List (String × Toml)

/-- Changes the value under a key, or adds one, if the change succeeds. -/
def alter? (key : String) (f : Option Toml → Option Toml) : Entries → Option Entries
  | [] => (f none).map fun v ↦ [(key, v)]
  | (k, v) :: rest =>
    if k = key then (f (some v)).map fun v ↦ (k, v) :: rest
    else (alter? key f rest).map ((k, v) :: ·)

/-- Changes a table below the given one, creating the tables on the way that are not there. On the
way of a dotted key no table may lie that has a header. -/
def enter? (creates : Origin) (f : Origin → Entries → Option Entries) :
    (path : List String) → Origin → Entries → Option Entries
  | [], origin, entries => f origin entries
  | key :: rest, _, entries =>
    alter? key (fun
      | none => (enter? creates f rest creates []).map (table creates)
      | some (table origin inner) =>
        if creates = .dotted ∧ origin = .header then none
        else (enter? creates f rest origin inner).map (table origin)
      | some (tables items) =>
        match items.getLast? with
        | none => none
        | some last =>
          (enter? creates f rest .header last).map fun inner ↦ tables (items.dropLast ++ [inner])
      | some _ => none) entries

/-- Adds a value under a dotted key. The table it is added to must be one that dotted keys make
exactly if there are points in the key, and must not have the key. -/
def assign? (path : List String) (key : String) (value : Toml) (origin : Origin)
    (entries : Entries) : Option Entries :=
  enter? .dotted (fun origin entries ↦
    if (origin == .dotted) == path.isEmpty then none
    else alter? key (fun old ↦ if old.isSome then none else some value) entries)
    path origin entries

/-- Adds a value under a dotted key of the table with the given header. -/
def assignBelow? (header path : List String) (key : String) (value : Toml) (document : Entries) :
    Option Entries :=
  enter? .implied (assign? path key value) header .header document

/-- Opens a table. It must be a new one, or one that is implied so far. -/
def openTable? (path : List String) (key : String) (document : Entries) : Option Entries :=
  enter? .implied (fun _ entries ↦
    alter? key (fun
      | none => some (table .header [])
      | some (table .implied inner) => some (table .header inner)
      | some _ => none) entries) path .header document

/-- Opens the next table of an array of tables. -/
def openNext? (path : List String) (key : String) (document : Entries) : Option Entries :=
  enter? .implied (fun _ entries ↦
    alter? key (fun
      | none => some (tables [[]])
      | some (tables items) => some (tables (items ++ [[]]))
      | some _ => none) entries) path .header document

end Toml

end MapStyle
