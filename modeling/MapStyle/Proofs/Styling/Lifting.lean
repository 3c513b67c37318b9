import MapStyle.Styling.Parallel

/-!
# Evaluation in two ways

The evaluation of styles is written for any kind of computation. What is said of the evaluation of
single texts or fields in two kinds of computation therefore carries over to whole styles, whole
categories and whole layers, as long as it is kept by giving a value and by going on with one.
-/

namespace MapStyle.Styling

variable {m n : Type → Type} [Monad m] [Monad n]

/-- A relation between computations of two kinds that values and successions keep. -/
structure Respects (m n : Type → Type) [Monad m] [Monad n]
    (R : (α : Type) → m α → n α → Prop) : Prop where
  pure : ∀ {α : Type} (a : α), R α (Pure.pure a) (Pure.pure a)
  bind : ∀ {α β : Type} {x : m α} {y : n α} {f : α → m β} {g : α → n β},
    R α x y → (∀ a, R β (f a) (g a)) → R β (x >>= f) (y >>= g)

namespace Respects

variable {R : (α : Type) → m α → n α → Prop}

theorem textWith (h : Respects m n R) {f : String → m (Except Expr.Fault Expr)}
    {g : String → n (Except Expr.Fault Expr)} (hfg : ∀ source, R _ (f source) (g source))
    (scope : Scope) (defines : Option (Table String)) (source : String) :
    R _ (textWith f scope defines source) (textWith g scope defines source) :=
  h.bind (hfg _) fun _ ↦ h.pure _

/-- Conditions are tried one by one, up to the first that holds. -/
theorem conditionsWith (h : Respects m n R) {f : String → m (Except Expr.Fault Value)}
    {g : String → n (Except Expr.Fault Value)} (hfg : ∀ source, R _ (f source) (g source))
    (cases : List (String × String)) : R _ (conditionsWith f cases) (conditionsWith g cases) := by
  induction cases with
  | nil => exact h.pure _
  | cons pair rest ih =>
    apply h.bind (hfg _)
    intro answer
    cases answer with
    | error fault => exact h.pure _
    | ok v =>
      dsimp only
      split
      · exact hfg _
      · exact ih

theorem styleWith (h : Respects m n R) {f : String → m (Except Expr.Fault Value)}
    {g : String → n (Except Expr.Fault Value)} (hfg : ∀ source, R _ (f source) (g source))
    (e : StyleExpression) : R _ (styleWith f e) (styleWith g e) := by
  cases e with
  | source s => exact hfg s
  | conditions cases => exact h.conditionsWith hfg cases

variable {f : FieldStyle → m (Option Json)} {g : FieldStyle → n (Option Json)}

/-- The fields of a category are evaluated one by one. -/
theorem fieldsWith (h : Respects m n R) {fields : CategoryStyle}
    (hfg : ∀ field ∈ fields, R _ (f field.2) (g field.2)) :
    R _ (fieldsWith f fields) (fieldsWith g fields) := by
  induction fields with
  | nil => exact h.pure _
  | cons field rest ih =>
    apply h.bind (hfg field (by simp))
    intro v
    exact h.bind (ih fun other hother ↦ hfg other (by simp [hother])) fun _ ↦ h.pure _

theorem categoryWith (h : Respects m n R) {fields? : Option CategoryStyle}
    (hfg : ∀ fields, fields? = some fields → ∀ field ∈ fields, R _ (f field.2) (g field.2)) :
    R _ (categoryWith f fields?) (categoryWith g fields?) := by
  cases fields? with
  | none => exact h.pure _
  | some fields => exact h.bind (h.fieldsWith (hfg fields rfl)) fun _ ↦ h.pure _

/-- Categories are evaluated one by one, and those without styles are passed over. -/
theorem appearancesWith (h : Respects m n R) {styles : ByCategory CategoryStyle}
    (hfg : ∀ c fields, styles.get? c = some fields →
      ∀ field ∈ fields, R _ (f field.2) (g field.2)) :
    R _ (appearancesWith f styles) (appearancesWith g styles) :=
  h.bind (h.categoryWith (hfg .marker)) fun _ ↦
  h.bind (h.categoryWith (hfg .polyline)) fun _ ↦
  h.bind (h.categoryWith (hfg .polygon)) fun _ ↦
  h.bind (h.categoryWith (hfg .model)) fun _ ↦
  h.bind (h.categoryWith (hfg .tiles3D)) fun _ ↦
  h.bind (h.categoryWith (hfg .ellipsoid)) fun _ ↦
  h.bind (h.categoryWith (hfg .photoOverlay)) fun _ ↦
  h.bind (h.categoryWith (hfg .legacyResource)) fun _ ↦
  h.pure _

/-- Features are styled one by one. -/
theorem featuresWith (h : Respects m n R) {f : Feature → m StyledFeature}
    {g : Feature → n StyledFeature} {features : List Feature}
    (hfg : ∀ feature ∈ features, R _ (f feature) (g feature)) :
    R _ (featuresWith f features) (featuresWith g features) := by
  induction features with
  | nil => exact h.pure _
  | cons feature rest ih =>
    apply h.bind (hfg feature (by simp))
    intro _
    exact h.bind (ih fun other hother ↦ hfg other (by simp [hother])) fun _ ↦ h.pure _

end Respects

end MapStyle.Styling
