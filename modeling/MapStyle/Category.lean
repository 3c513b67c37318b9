/-!
# Appearance categories

Features are shown in eight ways, and each has a category of appearance fields. What is known for
some of the categories is held in a record with a place for each of them.
-/

namespace MapStyle

inductive Category where
  | marker
  | polyline
  | polygon
  | model
  | tiles3D
  | ellipsoid
  | photoOverlay
  | legacyResource
  deriving Repr, DecidableEq

namespace Category

def all : List Category :=
  [marker, polyline, polygon, model, tiles3D, ellipsoid, photoOverlay, legacyResource]

/-- The name of a category in documents. -/
def key : Category → String
  | marker => "marker"
  | polyline => "polyline"
  | polygon => "polygon"
  | model => "model"
  | tiles3D => "3dtiles"
  | ellipsoid => "ellipsoid"
  | photoOverlay => "photooverlay"
  | legacyResource => "legacy_resource"

def ofKey? (name : String) : Option Category := all.find? fun c ↦ c.key == name

theorem mem_all (c : Category) : c ∈ all := by cases c <;> decide

theorem key_injective {c d : Category} (h : c.key = d.key) : c = d := by
  cases c <;> cases d <;> first | rfl | exact absurd h (by decide)

@[simp] theorem ofKey?_key (c : Category) : ofKey? c.key = some c := by cases c <;> decide

end Category

/-- A value for each of some categories. -/
structure ByCategory (α : Type) where
  marker : Option α := none
  polyline : Option α := none
  polygon : Option α := none
  model : Option α := none
  tiles3D : Option α := none
  ellipsoid : Option α := none
  photoOverlay : Option α := none
  legacyResource : Option α := none
  deriving Repr

namespace ByCategory

variable {α : Type}

def get? (m : ByCategory α) : Category → Option α
  | .marker => m.marker
  | .polyline => m.polyline
  | .polygon => m.polygon
  | .model => m.model
  | .tiles3D => m.tiles3D
  | .ellipsoid => m.ellipsoid
  | .photoOverlay => m.photoOverlay
  | .legacyResource => m.legacyResource

/-- The record with the value that a function gives for each category. -/
def ofFunction (f : Category → Option α) : ByCategory α where
  marker := f .marker
  polyline := f .polyline
  polygon := f .polygon
  model := f .model
  tiles3D := f .tiles3D
  ellipsoid := f .ellipsoid
  photoOverlay := f .photoOverlay
  legacyResource := f .legacyResource

@[simp] theorem get?_ofFunction (f : Category → Option α) (c : Category) :
    (ofFunction f).get? c = f c := by cases c <;> rfl

@[ext] theorem ext_get? {m n : ByCategory α} (h : ∀ c, m.get? c = n.get? c) : m = n := by
  obtain ⟨⟩ := m
  obtain ⟨⟩ := n
  have h1 := h .marker
  have h2 := h .polyline
  have h3 := h .polygon
  have h4 := h .model
  have h5 := h .tiles3D
  have h6 := h .ellipsoid
  have h7 := h .photoOverlay
  have h8 := h .legacyResource
  simp only [get?] at h1 h2 h3 h4 h5 h6 h7 h8
  subst h1 h2 h3 h4 h5 h6 h7 h8
  rfl

def set (m : ByCategory α) (c : Category) (value : α) : ByCategory α :=
  ofFunction fun d ↦ if d = c then some value else m.get? d

/-- The categories with a value, in their order, and their values. -/
def entries (m : ByCategory α) : List (Category × α) :=
  Category.all.filterMap fun c ↦ (m.get? c).map (c, ·)

def isEmpty (m : ByCategory α) : Bool := m.entries.isEmpty

end ByCategory

end MapStyle
