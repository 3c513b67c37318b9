import MapStyle.Proofs.Styling.Independent

/-!
# Layers apart from each other

Several layers may be evaluated with one memory, in an order that is not known. They are apart if a
result that one of them leaves is the outcome of the style for every scope of another one that has
the same key. Then each of them looks as it does without memory. Layers whose styles are covered by
their references are apart.
-/

namespace MapStyle

open Styling

/-- The results that several layers leave, each for itself and for all features. -/
def leavesOf (layers : List SimpleLayer) : Memo.Origin :=
  fun e s defines ↦ ∃ l ∈ layers, l.StyledBy e ∧ l.Visits s ∧ defines = l.defines

/-- What some layers leave under a key is the outcome of each of their styles with that key. -/
def Apart (layers : List SimpleLayer) : Prop :=
  ∀ l ∈ layers, ∀ e, l.StyledBy e → ∀ s, l.Visits s → Task.Fits (leavesOf layers) s l.defines e

variable {layers : List SimpleLayer} {l : SimpleLayer}

namespace Apart

theorem fits (h : Apart layers) (hl : l ∈ layers) {s : Scope} (hs : l.Visits s)
    {e : StyleExpression} (he : l.StyledBy e) :
    leavesOf layers e s l.defines ∧ Task.Fits (leavesOf layers) s l.defines e :=
  ⟨⟨l, hl, he, hs, rfl⟩, h l hl e he s hs⟩

/-- With a memory that only layers apart have used, a layer looks as it does without memory. -/
theorem style_gives (h : Apart layers) (hl : l ∈ layers) (features : List Feature) :
    Memo.Gives (Memo.Sound (leavesOf layers)) _ (Memo.style l features)
      (Styling.style l features) := by
  have hlayer : Memo.Gives (Memo.Sound (leavesOf layers)) _ (Memo.styleLayer l)
      (Styling.styleLayer l) :=
    SimpleLayer.styleLayer_gives fun _ ↦ h.fits hl (.inl rfl)
  have hfeatures : Memo.Gives (Memo.Sound (leavesOf layers)) _
      (featuresWith (Memo.styleFeature l) features) (features.map (Styling.styleFeature l)) := by
    rw [← SimpleLayer.featuresWith_eq_map]
    exact (Memo.respects_gives _).featuresWith fun f _ ↦
      SimpleLayer.styleFeature_gives fun _ ↦ h.fits hl (.inr ⟨f, rfl⟩)
  exact hlayer.bind (hfeatures.bind ((Memo.respects_gives _).pure _))

/-- The same for the answer to a request for the features. -/
theorem styleAnswer_gives (h : Apart layers) (hl : l ∈ layers)
    (answer : Except Fault (List Feature)) :
    Memo.Gives (Memo.Sound (leavesOf layers)) _ (Memo.styleAnswer l answer)
      (answer.map fun features ↦ some (Styling.style l features)) := by
  cases answer with
  | error fault => exact (Memo.respects_gives _).pure _
  | ok features => exact (h.style_gives hl features).bind ((Memo.respects_gives _).pure _)

end Apart

/-- Layers whose references tell all that their styles read are apart. -/
theorem apart_of_covered (h : ∀ l ∈ layers, ∀ e, l.StyledBy e → Memo.Covered e l.defines) :
    Apart layers := by
  intro l hl e he s _ t v _ hkey hvalue
  rw [← Memo.keyDetermines_of_covered (h l hl e he) t s hkey, hvalue]
  rfl

end MapStyle
