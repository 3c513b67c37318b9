import MapStyle.Proofs.Styling.Collision

/-!
# Features apart from each other

A layer styles each of its features as if the feature were alone, whatever the settings, the other
features and the order of the accesses to the memory, exactly if its keys tell its scopes apart: a
result that the layer leaves for itself or for a feature is the outcome of its style for every
feature under whose key it is found. Layers whose styles are covered by their references are of this
kind. A layer that defines a name by a text with a placeholder need not be.
-/

namespace MapStyle

open Styling

namespace SimpleLayer

/-- One of the fields of a layer is styled by an expression. -/
def StyledBy (l : SimpleLayer) (e : StyleExpression) : Prop :=
  ∃ c fields, l.styles.get? c = some fields ∧ ∃ field ∈ fields, field.2.expression? = some e

/-- The scope in which a layer styles a feature. -/
def scopeFor (l : SimpleLayer) (f : Feature) : Scope := featureScope (f.readProperties l.jsonKeys)

/-- A layer leaves results for a scope: its own, or that of a feature. -/
def Visits (l : SimpleLayer) (s : Scope) : Prop := s = layerScope l ∨ ∃ f, s = l.scopeFor f

/-- What a layer leaves under the key of a feature is the outcome of the feature itself. -/
def Independent (l : SimpleLayer) : Prop :=
  ∀ e, l.StyledBy e → ∀ s, l.Visits s → ∀ f v,
    Memo.keyOf (Memo.referencesOf e) e s l.defines
        = Memo.keyOf (Memo.referencesOf e) e (l.scopeFor f) l.defines →
    evalStyle s l.defines e = .ok v →
      outcome (evalStyle (l.scopeFor f) l.defines e) = v.toJson?

/-- The results that a layer leaves in some scopes. -/
def leaves (l : SimpleLayer) (scopes : Scope → Prop) : Memo.Origin :=
  fun e s defines ↦ l.StyledBy e ∧ scopes s ∧ defines = l.defines

variable {l : SimpleLayer}

/-! ## From the keys to the features -/

theorem fits_own (l : SimpleLayer) (s : Scope) (e : StyleExpression) :
    Task.Fits (l.leaves (· = s)) s l.defines e := by
  rintro t v ⟨-, rfl, -⟩ - hvalue
  rw [hvalue]
  rfl

theorem Independent.fits (h : l.Independent) {e : StyleExpression} (he : l.StyledBy e)
    (f : Feature) : Task.Fits (l.leaves l.Visits) (l.scopeFor f) l.defines e :=
  fun s v horigin hkey hvalue ↦ h e he s horigin.2.1 f v hkey hvalue

/-- With results that fit, a layer gives the appearances that it gives without memory. -/
theorem appearances_yields {origin : Memo.Origin} {s : Scope}
    (h : ∀ e, l.StyledBy e → origin e s l.defines ∧ Task.Fits origin s l.defines e) :
    (appearancesWith (Task.evalField s l.defines) l.styles).Yields (Memo.Sound origin)
      (appearancesWith (m := Id) (Styling.evalField s l.defines) l.styles) :=
  Task.respects_yields.appearancesWith fun c fields hfields field hfield ↦
    Task.evalField_yields fun e he ↦ h e ⟨c, fields, hfields, field, hfield, he⟩

theorem styleFeature_yields {origin : Memo.Origin} {f : Feature}
    (h : ∀ e, l.StyledBy e →
      origin e (l.scopeFor f) l.defines ∧ Task.Fits origin (l.scopeFor f) l.defines e) :
    (Task.styleFeature l f).Yields (Memo.Sound origin) (Styling.styleFeature l f) :=
  (appearances_yields h).bind rfl

theorem styleLayer_gives {origin : Memo.Origin}
    (h : ∀ e, l.StyledBy e →
      origin e (layerScope l) l.defines ∧ Task.Fits origin (layerScope l) l.defines e) :
    Memo.Gives (Memo.Sound origin) _ (Memo.styleLayer l) (Styling.styleLayer l) := by
  refine .of_yields (appearances_yields h) ?_
  exact Task.respects_does.appearancesWith fun _ _ _ _ _ ↦ Task.evalField_does _ _ _

theorem styleFeature_gives {origin : Memo.Origin} {f : Feature}
    (h : ∀ e, l.StyledBy e →
      origin e (l.scopeFor f) l.defines ∧ Task.Fits origin (l.scopeFor f) l.defines e) :
    Memo.Gives (Memo.Sound origin) _ (Memo.styleFeature l f) (Styling.styleFeature l f) :=
  .of_yields (styleFeature_yields h) (Task.styleFeature_does l f)

/-- Alone, on a fresh memory, a feature has the appearance that it has without memory. -/
theorem styleFeature_fresh (l : SimpleLayer) (f : Feature) (fresh : Config) :
    ((Memo.styleFeature l f).run (Memo.empty fresh)).1 = Styling.styleFeature l f := by
  have hgives := @styleFeature_gives l (l.leaves (· = l.scopeFor f)) f fun e he ↦
    ⟨⟨he, rfl, rfl⟩, fits_own l (l.scopeFor f) e⟩
  exact (hgives _ (Memo.sound_empty fresh)).1

/-- The layer itself comes first, and has the appearance that it has without memory. -/
theorem styleLayer_first (l : SimpleLayer) :
    Memo.Gives (Memo.Sound (l.leaves (· = layerScope l))) _ (Memo.styleLayer l)
      (Styling.styleLayer l) :=
  styleLayer_gives fun e he ↦ ⟨⟨he, rfl, rfl⟩, fits_own l (layerScope l) e⟩

theorem sound_after_layer (l : SimpleLayer) (config : Config) :
    Memo.Sound (l.leaves l.Visits) ((Memo.styleLayer l).run (Memo.empty config)).2 :=
  (l.styleLayer_first _ (Memo.sound_empty config)).2.mono
    fun _ _ _ horigin ↦ ⟨horigin.1, .inl horigin.2.1, horigin.2.2⟩

theorem featuresWith_eq_map (g : Feature → StyledFeature) (features : List Feature) :
    featuresWith (m := Id) g features = features.map g := by
  induction features with
  | nil => rfl
  | cons f rest ih =>
    rw [List.map_cons, ← ih]
    rfl

/-- The features of an independent layer, one after the other. -/
theorem Independent.features_inOrder (h : l.Independent) (features : List Feature) :
    Memo.Gives (Memo.Sound (l.leaves l.Visits)) _ (featuresWith (Memo.styleFeature l) features)
      (features.map (Styling.styleFeature l)) := by
  rw [← featuresWith_eq_map]
  apply (Memo.respects_gives _).featuresWith
  intro f _
  exact styleFeature_gives fun e he ↦ ⟨⟨he, .inr ⟨f, rfl⟩, rfl⟩, h.fits he f⟩

/-- The features of an independent layer, with their accesses to the memory in any order. -/
theorem Independent.features_parallel (h : l.Independent) {memo memo' : Memo}
    (hmemo : Memo.Sound (l.leaves l.Visits) memo) {features : List Feature}
    {styled : List StyledFeature}
    (hsteps : Task.Steps memo (features.map (Task.styleFeature l)) memo' (styled.map .done)) :
    styled = features.map (Styling.styleFeature l) := by
  refine Task.eq_of_yields_done (hsteps.yields hmemo ?_).2
  rw [List.forall₂_map_left_iff, List.forall₂_map_right_iff, List.forall₂_same]
  exact fun f _ ↦ styleFeature_yields fun e he ↦ ⟨⟨he, .inr ⟨f, rfl⟩, rfl⟩, h.fits he f⟩

/-- In whatever order the features of an independent layer are evaluated, the layer looks as it does
without memory. -/
theorem Independent.style_of_evaluates (h : l.Independent) {config : Config}
    {source : DataSource → Except Fault (List Feature)} {data : DataSource}
    (hdata : l.data = some data) {features : List Feature} (hsource : source data = .ok features)
    {styled : Styled} (heval : Evaluates config source l (.ok (some styled))) :
    styled = Styling.style l features := by
  have hsound := l.sound_after_layer config
  have hlayer := (l.styleLayer_first _ (Memo.sound_empty config)).1
  generalize hanswer : (Except.ok (some styled) : Except Fault (Option Styled)) = answer at heval
  cases heval with
  | noData hnone => cases hanswer
  | fault hdata' hfault => cases hanswer
  | inOrder hdata' hsource' _ =>
    cases hanswer
    obtain rfl := Option.some.inj (hdata.symm.trans hdata')
    obtain rfl := Except.ok.inj (hsource.symm.trans hsource')
    have hfeatures := (h.features_inOrder features _ hsound).1
    rw [Styling.style, ← hlayer, ← hfeatures]
    rfl
  | parallel hdata' hsource' _ hsteps =>
    cases hanswer
    obtain rfl := Option.some.inj (hdata.symm.trans hdata')
    obtain rfl := Except.ok.inj (hsource.symm.trans hsource')
    rw [Styling.style, ← hlayer, ← h.features_parallel hsound hsteps]
    rfl

/-- Some order of the accesses always comes to an end. -/
theorem exists_evaluates (config : Config) (source : DataSource → Except Fault (List Feature))
    (l : SimpleLayer) : ∃ answer, Evaluates config source l answer := by
  cases hdata : l.data with
  | none => exact ⟨_, .noData hdata⟩
  | some data =>
    cases hsource : source data with
    | error fault => exact ⟨_, .fault hdata hsource⟩
    | ok features =>
      by_cases hlt : features.length < config.parallelThreshold
      · exact ⟨_, .inOrder hdata hsource hlt⟩
      · obtain ⟨memo, styled, hsteps⟩ := Task.exists_steps [] (features.map (Task.styleFeature l))
          ((Memo.styleLayer l).run (Memo.empty config)).2
        exact ⟨_, .parallel hdata hsource (Nat.le_of_not_lt hlt) hsteps⟩

/-- A layer whose references tell all that its styles read is independent. -/
theorem independent_of_covered (h : ∀ e, l.StyledBy e → Memo.Covered e l.defines) :
    l.Independent := by
  intro e he s _ f v hkey hvalue
  rw [← Memo.keyDetermines_of_covered (h e he) s (l.scopeFor f) hkey, hvalue]
  rfl

/-! ## From the features to the keys -/

/-- The expressions of all fields of a layer. -/
def expressions (l : SimpleLayer) : List StyleExpression :=
  l.styles.entries.flatMap fun category ↦ category.2.filterMap fun field ↦ field.2.expression?

theorem StyledBy.mem_expressions {e : StyleExpression} (h : l.StyledBy e) : e ∈ l.expressions := by
  obtain ⟨c, fields, hfields, field, hfield, he⟩ := h
  refine List.mem_flatMap.mpr ⟨(c, fields), ?_, List.mem_filterMap.mpr ⟨field, hfield, he⟩⟩
  exact List.mem_filterMap.mpr ⟨c, Category.mem_all c, by rw [hfields, Option.map_some]⟩

/-- The keys under which a layer may leave results for some scopes. -/
def keyTexts (l : SimpleLayer) (scopes : List Scope) : List String :=
  l.expressions.flatMap fun e ↦ scopes.map fun s ↦ Memo.keyText e s l.defines

theorem listed_keyTexts (l : SimpleLayer) (scopes : List Scope) :
    Memo.Listed (l.leaves (· ∈ scopes)) (l.keyTexts scopes) := by
  rintro e s _ ⟨he, hs, rfl⟩
  exact List.mem_flatMap.mpr ⟨e, he.mem_expressions, List.mem_map.mpr ⟨s, hs, rfl⟩⟩

theorem leaves_of_mem {scopes : List Scope} {s : Scope} (hs : s ∈ scopes) :
    ∀ c fields, l.styles.get? c = some fields → ∀ field ∈ fields, ∀ e,
      field.2.expression? = some e → l.leaves (· ∈ scopes) e s l.defines :=
  fun c fields hfields field hfield _ he ↦ ⟨⟨c, fields, hfields, field, hfield, he⟩, hs, rfl⟩

theorem roomy_empty {scopes : List Scope} {config : Config}
    (hroom : (l.keyTexts scopes).length ≤ config.resultCapacity) :
    Memo.Roomy (l.leaves (· ∈ scopes)) (l.keyTexts scopes) (Memo.empty config) :=
  ⟨Memo.sound_empty config, List.nodup_nil, hroom.trans (Nat.le_max_left _ _)⟩

/-- The layer itself is evaluated in a roomy memory and leaves one. -/
theorem roomy_after_layer {scopes : List Scope} {config : Config}
    (hroom : (l.keyTexts scopes).length ≤ config.resultCapacity) (hs : layerScope l ∈ scopes) :
    Memo.Roomy (l.leaves (· ∈ scopes)) (l.keyTexts scopes)
      ((Memo.styleLayer l) (Memo.empty config)).2 :=
  (roomy_empty hroom).appearances (l.listed_keyTexts scopes) (leaves_of_mem hs)

section Field

variable (hnamed : NamedOnce l.styles) {c : Category} {fields : CategoryStyle}
  (hfields : l.styles.get? c = some fields) {field : String × FieldStyle} (hfield : field ∈ fields)
  {e : StyleExpression} (he : field.2.expression? = some e)

include hnamed hfields hfield he

theorem field?_without_memory (s : Scope) :
    (appearancesWith (m := Id) (Styling.evalField s l.defines) l.styles).field? c field.1
      = outcome (evalStyle s l.defines e) := by
  rw [field?_appearancesWith hnamed _ hfields hfield, Styling.evalField, he]

variable {config : Config} {f : Feature} {v : Value}

/-- A result that a layer leaves for itself is found by the first feature with the same key. -/
theorem field?_of_layer
    (hroom : (l.keyTexts [layerScope l, l.scopeFor f]).length ≤ config.resultCapacity)
    (hkey : Memo.keyText e (layerScope l) l.defines = Memo.keyText e (l.scopeFor f) l.defines)
    (hvalue : evalStyle (layerScope l) l.defines e = .ok v) :
    ((Memo.styleFeature l f)
        ((Memo.styleLayer l) (Memo.empty config)).2).1.appearances.field? c field.1
      = v.toJson? := by
  have hfound := Memo.field?_found_again (l.listed_keyTexts _) hnamed (leaves_of_mem (by simp))
    (leaves_of_mem (by simp)) (roomy_empty hroom) hfields hfield he hvalue hkey
  have hown := field?_without_memory hnamed hfields hfield he (layerScope l)
  have hlayer : ((Memo.styleLayer l) (Memo.empty config)).1
      = appearancesWith (m := Id) (Styling.evalField (layerScope l) l.defines) l.styles :=
    (l.styleLayer_first _ (Memo.sound_empty config)).1
  calc
    _ = ((Memo.styleLayer l) (Memo.empty config)).1.field? c field.1 := hfound
    _ = outcome (evalStyle (layerScope l) l.defines e) := by rw [hlayer, hown]
    _ = v.toJson? := by
      rw [hvalue]
      rfl

/-- A result that a layer leaves for one feature is found by the next one with the same key. -/
theorem field?_of_feature {g : Feature}
    (hroom : (l.keyTexts [layerScope l, l.scopeFor g, l.scopeFor f]).length
      ≤ config.resultCapacity)
    (hkey : Memo.keyText e (l.scopeFor g) l.defines = Memo.keyText e (l.scopeFor f) l.defines)
    (hvalue : evalStyle (l.scopeFor g) l.defines e = .ok v) :
    ((Memo.styleFeature l f) ((Memo.styleFeature l g)
        ((Memo.styleLayer l) (Memo.empty config)).2).2).1.appearances.field? c field.1
      = ((Memo.styleFeature l g)
        ((Memo.styleLayer l) (Memo.empty config)).2).1.appearances.field? c field.1 :=
  Memo.field?_found_again (l.listed_keyTexts _) hnamed (leaves_of_mem (by simp [scopeFor]))
    (leaves_of_mem (by simp [scopeFor])) (roomy_after_layer hroom (by simp)) hfields hfield he
    hvalue hkey

end Field

/-- A layer that styles each feature as if it were alone is independent. -/
theorem independent_of_features {data : DataSource} (hdata : l.data = some data)
    (hnamed : NamedOnce l.styles)
    (h : ∀ (config : Config) (source : DataSource → Except Fault (List Feature))
      (features : List Feature) (styled : Styled), source data = .ok features →
      Evaluates config source l (.ok (some styled)) →
      styled.features = features.map (Styling.styleFeature l)) : l.Independent := by
  rintro e ⟨c, fields, hfields, field, hfield, he⟩ s hs f v hkey hvalue
  have hkeyText : Memo.keyText e s l.defines = Memo.keyText e (l.scopeFor f) l.defines :=
    congrArg Json.compact hkey
  have halone (g : Feature) : (Styling.styleFeature l g).appearances.field? c field.1
      = outcome (evalStyle (l.scopeFor g) l.defines e) :=
    field?_without_memory hnamed hfields hfield he (l.scopeFor g)
  rw [← halone f]
  rcases hs with rfl | ⟨g, rfl⟩
  · let config : Config :=
      { resultCapacity := (l.keyTexts [layerScope l, l.scopeFor f]).length, parallelThreshold := 2 }
    have hrun := h config (fun _ ↦ .ok [f]) [f] _ rfl (.inOrder hdata rfl Nat.one_lt_two)
    rw [← (List.cons.inj hrun).1]
    exact field?_of_layer hnamed hfields hfield he (Nat.le_refl _) hkeyText hvalue
  · let config : Config :=
      { resultCapacity := (l.keyTexts [layerScope l, l.scopeFor g, l.scopeFor f]).length,
        parallelThreshold := 3 }
    have hrun := h config (fun _ ↦ .ok [g, f]) [g, f] _ rfl
      (.inOrder hdata rfl (Nat.lt_succ_self 2))
    obtain ⟨hfirst, hrest⟩ := List.cons.inj hrun
    have hfound : (Styling.styleFeature l f).appearances.field? c field.1
        = (Styling.styleFeature l g).appearances.field? c field.1 := by
      rw [← (List.cons.inj hrest).1, ← hfirst]
      exact field?_of_feature hnamed hfields hfield he (Nat.le_refl _) hkeyText hvalue
    calc
      _ = (Styling.styleFeature l g).appearances.field? c field.1 := hfound
      _ = outcome (evalStyle (l.scopeFor g) l.defines e) := halone g
      _ = v.toJson? := by
        rw [hvalue]
        rfl

/-- Every feature of a layer is styled as it is alone, for all settings, for all lists of features
and in every order of the accesses to the memory, exactly if the layer is independent. -/
theorem features_alone_iff {data : DataSource} (hdata : l.data = some data)
    (hnamed : NamedOnce l.styles) :
    (∀ (config fresh : Config) (source : DataSource → Except Fault (List Feature))
      (features : List Feature) (styled : Styled), source data = .ok features →
      Evaluates config source l (.ok (some styled)) →
      styled.features = features.map fun f ↦ ((Memo.styleFeature l f).run (Memo.empty fresh)).1) ↔
    l.Independent := by
  simp only [styleFeature_fresh]
  constructor
  · intro h
    exact independent_of_features hdata hnamed fun config source features styled ↦
      h config {} source features styled
  · intro h config _ source features styled hsource heval
    rw [h.style_of_evaluates hdata hsource heval]
    rfl

/-- A layer that styles its features by a property. -/
def labelled : SimpleLayer where
  id := "A"
  data := some { format := "geojson", url := some "a" }
  styles := { marker := some [("label", .expression (.source "$\x7bname\x7d"))] }

theorem covered_labelled {e : StyleExpression} (h : labelled.StyledBy e) :
    Memo.Covered e labelled.defines := by
  obtain ⟨c, fields, hfields, field, hfield, he⟩ := h
  cases c <;> cases hfields
  rw [List.mem_singleton.mp hfield] at he
  cases he
  exact Request.covered_name

theorem independent_labelled : labelled.Independent :=
  independent_of_covered fun _ he ↦ covered_labelled he

theorem namedOnce_labelled : NamedOnce labelled.styles := by
  intro c fields hfields
  cases c <;> cases hfields
  exact List.pairwise_singleton _ _

/-- Two features with different names. -/
def labels : List Feature :=
  [{ id := "a", properties := [("name", .string "A")] },
    { id := "b", properties := [("name", .string "B")] }]

theorem labelled_alone : ((Memo.style labelled labels).run (Memo.empty {})).1.features
    = labels.map fun f ↦ ((Memo.styleFeature labelled f).run (Memo.empty {})).1 :=
  (features_alone_iff rfl namedOnce_labelled).mpr independent_labelled {} {} (fun _ ↦ .ok labels)
    labels _ rfl (.inOrder rfl rfl (by decide))

/-! ## A define that reads a property -/

/-- A layer that defines a name by a text with a placeholder. -/
def sized : SimpleLayer where
  id := "A"
  data := some { format := "geojson", url := some "a" }
  defines := some [("size", "$\x7bheight\x7d")]
  styles := { marker := some [("pointSize", .expression (.source "$\x7bsize\x7d"))] }

def tall : Feature := { id := "a", properties := [("height", .string "tall")] }

/-- The key of the style holds none of the properties: the define is not among its references. -/
theorem keyOf_sized {s : Scope}
    (h : s.properties = [] ∨ s.properties = [("height", .string "tall")]) :
    Memo.keyOf ["size"] (.source "$\x7bsize\x7d") s sized.defines
      = .array [.string "$\x7bsize\x7d", .object [],
          .object [("size", .string "$\x7bheight\x7d")], .null] := by
  have hmark : ["size"].contains Placeholder.identifierMark = false := by decide
  have hfeature : Memo.mentionsFeature (.source "$\x7bsize\x7d") = false := by decide
  have hnarrow : Placeholder.narrow ["size"] (s.id.getD "") s.properties = [] := by
    rcases h with h | h <;> rw [h] <;> cbv
  simp only [Memo.keyOf, hmark, hfeature, hnarrow]
  rfl

/-- The placeholder comes in by the define, so neither key has the height in it. -/
theorem keyText_sized : Memo.keyText (.source "$\x7bsize\x7d") (layerScope sized) sized.defines
    = Memo.keyText (.source "$\x7bsize\x7d") (sized.scopeFor tall) sized.defines := by
  have hreferences : Memo.referencesOf (.source "$\x7bsize\x7d") = ["size"] := by cbv
  unfold Memo.keyText
  calc
    _ = (Memo.keyOf ["size"] (.source "$\x7bsize\x7d") (layerScope sized)
        sized.defines).compact := by rw [hreferences]
    _ = (Memo.keyOf ["size"] (.source "$\x7bsize\x7d") (sized.scopeFor tall)
        sized.defines).compact := by rw [keyOf_sized (.inl rfl), keyOf_sized (.inr rfl)]
    _ = _ := by rw [hreferences]

theorem namedOnce_sized : NamedOnce sized.styles := by
  intro c fields hfields
  cases c <;> cases hfields
  exact List.pairwise_singleton _ _

/-- The layer leaves `undefined` under the key of the feature, and the feature loses the field that
it has alone. -/
theorem sized_not_alone :
    ((Memo.style sized [tall]).run (Memo.empty {})).1.features
      ≠ [((Memo.styleFeature sized tall).run (Memo.empty {})).1] := by
  intro h
  have hroom : (sized.keyTexts [layerScope sized, sized.scopeFor tall]).length
      ≤ ({} : Config).resultCapacity := by
    simp [keyTexts, expressions, ByCategory.entries, Category.all, ByCategory.get?, sized,
      FieldStyle.expression?]
  have hvalue : evalStyle (layerScope sized) sized.defines (.source "$\x7bsize\x7d")
      = .ok .undefined := by cbv
  have hfields : sized.styles.get? .marker
      = some [("pointSize", .expression (.source "$\x7bsize\x7d"))] := rfl
  have hfound := field?_of_layer namedOnce_sized hfields List.mem_cons_self rfl hroom
    keyText_sized hvalue
  have halone : (Styling.styleFeature sized tall).appearances.field? .marker "pointSize"
      = some (.string "tall") := by cbv
  have hfirst : ((Memo.styleFeature sized tall)
      ((Memo.styleLayer sized) (Memo.empty {})).2).1 = Styling.styleFeature sized tall :=
    (List.cons.inj h).1.trans (styleFeature_fresh sized tall {})
  rw [← hfirst, hfound] at halone
  contradiction

end SimpleLayer

end MapStyle
