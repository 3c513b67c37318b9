import MapStyle.Proofs.Styling.Sound

/-!
# The memory does not show

One evaluator answers requests one after the other and remembers what it evaluated; it is made with
any capacities, and may be cleared at any time. As long as the references of every style expression
in the requests tell all that the expression reads, each field has the value that a new evaluator
gives it.
-/

namespace MapStyle

open Styling

/-! ## Computations on a memory -/

namespace Memo

/-- A computation on the memory gives a value and keeps an invariant. -/
def Gives (I : Memo → Prop) (α : Type) (act : StateM Memo α) (a : α) : Prop :=
  ∀ memo, I memo → (act memo).1 = a ∧ I (act memo).2

theorem Gives.bind {I : Memo → Prop} {α β : Type} {act : StateM Memo α} {a : α}
    {f : α → StateM Memo β} {b : β} (hact : Gives I α act a) (hf : Gives I β (f a) b) :
    Gives I β (act >>= f) b := by
  intro memo hmemo
  obtain ⟨hvalue, hmemo'⟩ := hact memo hmemo
  subst hvalue
  exact hf _ hmemo'

theorem respects_gives (I : Memo → Prop) : Respects (StateM Memo) Id (Gives I) where
  pure := fun _ _ hmemo ↦ ⟨rfl, hmemo⟩
  bind := fun hact hf ↦ hact.bind (hf _)

variable {I : Memo → Prop} {α : Type}

theorem Gives.of_yields {t : Task α} {act : StateM Memo α} {a : α} (ht : t.Yields I a)
    (hact : Task.Does α t act) : Gives I α act a := by
  intro memo hmemo
  rw [← hact memo]
  exact ht.run hmemo

variable {origin : Origin} {scope : Scope} {defines : Option (Table String)}

theorem evalText_gives (source : String) :
    Gives (Sound origin) _ (evalText scope defines source)
      (Styling.evalText scope defines source) :=
  .of_yields (Task.evalText_yields source) (Task.evalText_does scope defines source)

theorem evalField_gives {style : FieldStyle}
    (h : ∀ e, style.expression? = some e →
      origin e scope defines ∧ Task.Fits origin scope defines e) :
    Gives (Sound origin) _ (evalField scope defines style)
      (Styling.evalField scope defines style) :=
  .of_yields (Task.evalField_yields h) (Task.evalField_does scope defines style)

/-- The value of a field that a new evaluator gives. -/
def freshField (config : Config) (scope : Scope) (defines : Option (Table String))
    (style : FieldStyle) : Option Json :=
  ((evalField scope defines style).run (empty config)).1

/-- A new evaluator finds no result, and gives the value without memory. -/
theorem freshField_eq (config : Config) (scope : Scope) (defines : Option (Table String))
    (style : FieldStyle) :
    freshField config scope defines style = Styling.evalField scope defines style := by
  have hgives : Gives (Sound fun _ s d ↦ s = scope ∧ d = defines) _
      (evalField scope defines style) (Styling.evalField scope defines style) := by
    refine evalField_gives fun e _ ↦ ⟨⟨rfl, rfl⟩, ?_⟩
    rintro s v ⟨rfl, -⟩ - hvalue
    rw [hvalue]
    rfl
  exact (hgives _ (sound_empty config)).1

end Memo

/-! ## Requests -/

/-- What an evaluator is asked for. -/
inductive Request where
  | field (style : FieldStyle) (scope : Scope) (defines : Option (Table String))
  | text (source : String) (scope : Scope) (defines : Option (Table String))
  | appearances (styles : ByCategory CategoryStyle) (l : SimpleLayer) (f : Option Feature)
  | feature (l : SimpleLayer) (f : Feature)
  | clear

inductive Answer where
  | field (value : Option Json)
  | text (value : Except Expr.Fault Value)
  | appearances (appearances : Appearances)
  | feature (styled : StyledFeature)
  | cleared

namespace Request

/-- The scope of a feature, or else that of the layer. -/
def scopeOf (l : SimpleLayer) : Option Feature → Scope
  | some f => featureScope f
  | none => layerScope l

def answer : Request → StateM Memo Answer
  | field style scope defines => do
    let value ← Memo.evalField scope defines style
    pure (.field value)
  | text source scope defines => do
    let value ← Memo.evalText scope defines source
    pure (.text value)
  | appearances styles l f => do
    let appearances ← appearancesWith (Memo.evalField (scopeOf l f) l.defines) styles
    pure (.appearances appearances)
  | feature l f => do
    let styled ← Memo.styleFeature l f
    pure (.feature styled)
  | clear => do
    modify Memo.clear
    pure .cleared

def answers : List Request → StateM Memo (List Answer)
  | [] => pure []
  | request :: rest => do
    let first ← request.answer
    let others ← answers rest
    pure (first :: others)

/-- The answer in which each field has the value that a new evaluator gives it. -/
def freshAnswer (config : Config) : Request → Answer
  | field style scope defines => .field (Memo.freshField config scope defines style)
  | text source scope defines =>
    .text ((Memo.evalText scope defines source).run (Memo.empty config)).1
  | appearances styles l f =>
    .appearances (appearancesWith (m := Id) (Memo.freshField config (scopeOf l f) l.defines) styles)
  | feature l f =>
    let feature := f.readProperties l.jsonKeys
    .feature
      { feature
        appearances := appearancesWith (m := Id)
          (Memo.freshField config (featureScope feature) l.defines) l.styles }
  | clear => .cleared

/-- The expressions of all fields are covered. -/
def StylesCovered (styles : ByCategory CategoryStyle) (defines : Option (Table String)) : Prop :=
  ∀ c fields, styles.get? c = some fields → ∀ field ∈ fields,
    ∀ e, field.2.expression? = some e → Memo.Covered e defines

/-- The references of every style expression that a request evaluates tell all that it reads. -/
def Covered : Request → Prop
  | field style _ defines => ∀ e, style.expression? = some e → Memo.Covered e defines
  | text _ _ _ => True
  | appearances styles l _ => StylesCovered styles l.defines
  | feature l _ => StylesCovered l.styles l.defines
  | clear => True

/-! ## One request -/

/-- The origin of results that covered styles allow: any scope. -/
abbrev coveredOrigin : Memo.Origin := fun e _ defines ↦ Memo.Covered e defines

theorem fits_of_covered {e : StyleExpression} {scope : Scope} {defines : Option (Table String)}
    (h : Memo.Covered e defines) : Task.Fits coveredOrigin scope defines e := by
  intro s v _ hkey hvalue
  rw [← Memo.keyDetermines_of_covered h s scope hkey, hvalue]
  rfl

/-- Covered styles have the values that a new evaluator gives them. -/
theorem appearances_gives {styles : ByCategory CategoryStyle} {scope : Scope}
    {defines : Option (Table String)} (h : StylesCovered styles defines) (fresh : Config) :
    Memo.Gives (Memo.Sound coveredOrigin) _ (appearancesWith (Memo.evalField scope defines) styles)
      (appearancesWith (m := Id) (Memo.freshField fresh scope defines) styles) := by
  apply (Memo.respects_gives _).appearancesWith
  intro c fields hfields field hfield
  rw [Memo.freshField_eq]
  exact Memo.evalField_gives fun e he ↦
    ⟨h c fields hfields field hfield e he, fits_of_covered (h c fields hfields field hfield e he)⟩

/-- A covered request is answered as by a new evaluator, and the memory stays sound. -/
theorem answer_gives {request : Request} (h : request.Covered) (fresh : Config) :
    Memo.Gives (Memo.Sound coveredOrigin) _ request.answer (request.freshAnswer fresh) := by
  have hrespects := Memo.respects_gives (Memo.Sound coveredOrigin)
  cases request with
  | field style scope defines =>
    rw [freshAnswer, Memo.freshField_eq]
    refine hrespects.bind (Memo.evalField_gives fun e he ↦ ⟨h e he, fits_of_covered (h e he)⟩)
      fun _ ↦ hrespects.pure _
  | text source scope defines =>
    have hgives : Memo.Gives (Memo.Sound coveredOrigin) _ (Memo.evalText scope defines source) _ :=
      Memo.evalText_gives source
    change Memo.Gives _ _ _
      (Answer.text ((Memo.evalText scope defines source) (Memo.empty fresh)).1)
    rw [(hgives _ (Memo.sound_empty fresh)).1]
    exact hrespects.bind hgives fun _ ↦ hrespects.pure _
  | appearances styles l f =>
    exact hrespects.bind (appearances_gives h fresh) fun _ ↦ hrespects.pure _
  | feature l f =>
    exact hrespects.bind
      (hrespects.bind (appearances_gives h fresh) fun _ ↦ hrespects.pure _) fun _ ↦
        hrespects.pure _
  | clear => exact fun memo _ ↦ ⟨rfl, Memo.Sound.clear⟩

/-- The answers of an evaluator to covered requests are those of new evaluators. -/
theorem answers_gives {requests : List Request} (h : ∀ request ∈ requests, request.Covered)
    (fresh : Config) : Memo.Gives (Memo.Sound coveredOrigin) _ (answers requests)
      (requests.map (freshAnswer fresh)) := by
  have hrespects := Memo.respects_gives (Memo.Sound coveredOrigin)
  induction requests with
  | nil => exact hrespects.pure _
  | cons request rest ih =>
    have hrest := ih fun other hother ↦ h other (by simp [hother])
    exact (answer_gives (h request (by simp)) fresh).bind (hrest.bind (hrespects.pure _))

/-- Whatever an evaluator was asked before, it answers a covered request as a new evaluator does,
field by field. -/
theorem answers_transparent (config fresh : Config) (requests : List Request)
    (h : ∀ request ∈ requests, request.Covered) :
    ((answers requests).run (Memo.empty config)).1 = requests.map (freshAnswer fresh) :=
  (answers_gives h fresh _ (Memo.sound_empty config)).1

/-- A request for the property of one name, for features that differ in it. -/
def nameIn (value : String) : Request :=
  .field (.expression (.source "$\x7bname\x7d"))
    { id := none, properties := [("name", .string value)] } none

theorem covered_name : Memo.Covered (.source "$\x7bname\x7d") none := by
  have hbodies : Placeholder.bodies ['$', '{', 'n', 'a', 'm', 'e', '}']
      = [['n', 'a', 'm', 'e']] := by cbv
  refine ⟨?_, ?_, ?_⟩
  · simp [StyleExpression.texts, Placeholder.replaceDefines]
  · simp [StyleExpression.texts, hbodies]
  · simp [StyleExpression.texts, hbodies]

theorem covered_nameIn (value : String) : (nameIn value).Covered := by
  rintro e ⟨⟩
  exact covered_name

theorem answers_transparent_nameIn :
    ((answers [nameIn "A", nameIn "B", .clear, nameIn "A"]).run (Memo.empty {})).1
      = [nameIn "A", nameIn "B", .clear, nameIn "A"].map (freshAnswer {}) := by
  apply answers_transparent
  intro request hrequest
  simp only [List.mem_cons, List.not_mem_nil, or_false] at hrequest
  rcases hrequest with rfl | rfl | rfl | rfl
  · exact covered_nameIn "A"
  · exact covered_nameIn "B"
  · trivial
  · exact covered_nameIn "A"

end Request

end MapStyle
