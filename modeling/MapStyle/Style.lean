import MapStyle.Category
import MapStyle.Json.Record
/-!
# Styles

A field of an appearance is styled by an expression, by a list of conditions of which the first that
holds selects its value, or by a value that is written out. A field may be wrapped in a container
with the one member `expression`. Which of these a JSON value is can be told from its form, and a
value of no other form is written out.
-/

namespace MapStyle

/-- An expression that styles a field. -/
inductive StyleExpression where
  | source (text : String)
  /-- The texts of conditions, each with the text of the expression it selects. -/
  | conditions (cases : List (String × String))
  deriving Repr, DecidableEq

/-- What a field is styled by. -/
inductive FieldStyle where
  | expression (e : StyleExpression)
  | container (inner : FieldStyle)
  /-- A value that is written out. -/
  | literal (value : Json)
  deriving Repr

abbrev CategoryStyle := Table FieldStyle

namespace StyleExpression

def pair? : Json → Option (String × String)
  | .array [.string condition, .string value] => some (condition, value)
  | _ => none

/-- Reads an expression: a text, or a record with the field `conditions`. -/
def ofJson? : Json → Option StyleExpression
  | .string s => some (.source s)
  | v => do
    let fields ← v.fields? ["conditions"]
    (Json.required fields "conditions" (Json.listOf pair?)).map conditions

def toJson : StyleExpression → Json
  | source s => .string s
  | conditions cases =>
    .object [("conditions", .array (cases.map fun (c, v) ↦ .array [.string c, .string v]))]

/-- The texts of the expression, in their order. -/
def texts : StyleExpression → List String
  | source s => [s]
  | conditions cases => cases.flatMap fun (c, v) ↦ [c, v]

end StyleExpression

namespace FieldStyle

/-- A member is smaller than the object, which nested styles are read by. -/
theorem sizeOf_lt_of_get? {members : List (String × Json)} {key : String} {v : Json}
    (h : Table.get? members key = some v) : sizeOf v < sizeOf members := by
  induction members with
  | nil => simp at h
  | cons e rest ih =>
    obtain ⟨k, w⟩ := e
    simp only [Table.get?] at h
    split at h
    · simp only [Option.some.injEq] at h
      subst h
      simp
      omega
    · have := ih h
      simp
      omega

/-- Reads the style of a field. Every value is one. -/
def ofJson (v : Json) : FieldStyle :=
  match StyleExpression.ofJson? v with
  | some e => .expression e
  | none =>
    match v with
    | .object members =>
      match h : Table.get? members "expression" with
      | some inner =>
        have := sizeOf_lt_of_get? h
        .container (ofJson inner)
      | none => .literal (.object members)
    | .array [inner] => .container (ofJson inner)
    | v => .literal v
termination_by sizeOf v

def toJson : FieldStyle → Json
  | expression e => e.toJson
  | container inner => .object [("expression", inner.toJson)]
  | literal v => v

/-- The expression that a style holds, also inside containers. -/
def expression? : FieldStyle → Option StyleExpression
  | expression e => some e
  | container inner => inner.expression?
  | literal _ => none

/-- The value that is written out, also inside containers. -/
def literal? : FieldStyle → Option Json
  | expression _ => none
  | container inner => inner.literal?
  | literal v => some v

def tableOfJson? : Json → Option CategoryStyle := Json.tableOf fun v ↦ some (ofJson v)

def tableToJson (styles : CategoryStyle) : Json := .object (styles.mapValues toJson)

end FieldStyle

/-- The evaluated fields of the categories that a layer styles. -/
abbrev Appearances := ByCategory (Table Json)

namespace Appearances

/-- The members that the appearances have in JSON, in the order of the categories. -/
def members (a : Appearances) : List (String × Json) :=
  a.entries.map fun (c, fields) ↦ (c.key, .object fields)

def toJson (a : Appearances) : Json := .object (Table.ofEntries a.members)

/-- Reads appearances. What is not a category with an object as its value is dropped. -/
def ofJson (v : Json) : Appearances :=
  .ofFunction fun c ↦ (v.member? c.key).bind Json.object?

def field? (a : Appearances) (c : Category) (name : String) : Option Json :=
  (a.get? c).bind fun fields ↦ Table.get? fields name

end Appearances

end MapStyle
