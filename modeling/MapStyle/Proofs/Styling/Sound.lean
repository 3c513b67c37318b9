import MapStyle.Proofs.Recent
import MapStyle.Proofs.Styling.Key
import MapStyle.Proofs.Styling.Task

/-!
# Sound memories

A memory is sound when its references and expressions are those of the texts they are stored under,
and each of its results is the value of a style in a scope under whose key it is stored. Of the
styles and scopes that results come from it is only asked that they belong to a given origin. Every
access keeps a memory sound, and evaluation with a sound memory gives a field the value it has
without memory, provided that results of the origin that share a key with the field share its
outcome.
-/

namespace MapStyle

namespace Memo

/-- The styles, scopes and defines that results may come from. -/
abbrev Origin := StyleExpression → Scope → Option (Table String) → Prop

/-- The key under which the value of a style is stored. -/
def keyText (e : StyleExpression) (scope : Scope) (defines : Option (Table String)) : String :=
  (keyOf (referencesOf e) e scope defines).compact

/-- The entries of a memory are what they are stored as. -/
structure Sound (origin : Origin) (memo : Memo) : Prop where
  references : ∀ entry ∈ memo.references.entries, entry.2 = Placeholder.references entry.1
  programs : ∀ entry ∈ memo.programs.entries, Styling.read entry.1 = .ok entry.2
  results : ∀ entry ∈ memo.results.entries, ∃ e scope defines, origin e scope defines ∧
    entry.1 = keyText e scope defines ∧ Styling.evalStyle scope defines e = .ok entry.2

variable {origin : Origin} {memo : Memo}

theorem sound_empty (config : Config) : Sound origin (empty config) where
  references := by simp [empty]
  programs := by simp [empty]
  results := by simp [empty]

theorem Sound.clear : Sound origin memo.clear where
  references := by simp [Memo.clear, Recent.clear]
  programs := by simp [Memo.clear, Recent.clear]
  results := by simp [Memo.clear, Recent.clear]

/-- A larger origin allows for more results. -/
theorem Sound.mono {larger : Origin} (h : Sound origin memo)
    (hle : ∀ e scope defines, origin e scope defines → larger e scope defines) :
    Sound larger memo where
  references := h.references
  programs := h.programs
  results := by
    intro entry hentry
    obtain ⟨e, scope, defines, horigin, hkey, hvalue⟩ := h.results entry hentry
    exact ⟨e, scope, defines, hle e scope defines horigin, hkey, hvalue⟩

/-- One key is made from one style and one list of defines. -/
theorem eq_of_keyText {e f : StyleExpression} {s t : Scope} {c d : Option (Table String)}
    (h : keyText e s c = keyText f t d) :
    e = f ∧ c = d ∧ keyOf (referencesOf e) e s c = keyOf (referencesOf e) e t c := by
  have hkey := Json.compact_injective h
  have hstyle : e = f := by
    simp only [keyOf, Json.array.injEq, List.cons.injEq] at hkey
    exact StyleExpression.toJson_injective hkey.1
  subst hstyle
  obtain rfl := (keyOf_inj hkey).1
  exact ⟨rfl, rfl, hkey⟩

end Memo

namespace Task

open Memo

variable {origin : Origin} {scope : Scope} {defines : Option (Table String)}

/-! ## Accesses -/

/-- Stored references are those of the text, and others are computed. -/
theorem textReferences_yields (source : String) :
    (textReferences source).Yields (Sound origin) (Placeholder.references source) := by
  refine Yields.once_bind fun memo hmemo ↦ ⟨?_, ?_⟩
  · exact ⟨fun entry hentry ↦ hmemo.references entry (Recent.mem_get hentry), hmemo.programs,
      hmemo.results⟩
  · simp only [onReferences]
    cases hfound : (memo.references.get source).1 with
    | some references => exact hmemo.references _ (Recent.mem_of_get hfound)
    | none =>
      refine Yields.once_bind fun memo hmemo ↦ ⟨⟨fun entry hentry ↦ ?_, ?_, ?_⟩, rfl⟩
      · rcases Recent.mem_put hentry with rfl | hmem
        · rfl
        · exact hmemo.references entry hmem
      · exact hmemo.programs
      · exact hmemo.results

theorem allReferences_yields (sources : List String) :
    (allReferences sources).Yields (Sound origin) (sources.flatMap Placeholder.references) := by
  induction sources with
  | nil => rfl
  | cons source rest ih =>
    exact (textReferences_yields source).bind (ih.bind rfl)

/-- Stored expressions are those of the text, and others are read. -/
theorem program_yields (source : String) :
    (program source).Yields (Sound origin) (Styling.read source) := by
  refine Yields.once_bind fun memo hmemo ↦ ⟨?_, ?_⟩
  · exact ⟨hmemo.references, fun entry hentry ↦ hmemo.programs entry (Recent.mem_get hentry),
      hmemo.results⟩
  · simp only [onPrograms]
    cases hfound : (memo.programs.get source).1 with
    | some e => exact (hmemo.programs _ (Recent.mem_of_get hfound)).symm
    | none =>
      dsimp only
      cases hread : Styling.read source with
      | error fault => rfl
      | ok e =>
        refine Yields.once_bind fun memo hmemo ↦ ⟨⟨?_, fun entry hentry ↦ ?_, ?_⟩, rfl⟩
        · exact hmemo.references
        · rcases Recent.mem_put hentry with rfl | hmem
          · exact hread
          · exact hmemo.programs entry hmem
        · exact hmemo.results

/-! ## Styles -/

theorem evalText_yields (source : String) :
    (evalText scope defines source).Yields (Sound origin)
      (Styling.evalText scope defines source) :=
  respects_yields.textWith program_yields scope defines source

theorem evalStyle_yields (e : StyleExpression) :
    (evalStyle scope defines e).Yields (Sound origin) (Styling.evalStyle scope defines e) :=
  respects_yields.styleWith evalText_yields e

/-- Results of an origin that are stored under the key of a style have the outcome of the style. -/
def Fits (origin : Origin) (scope : Scope) (defines : Option (Table String))
    (e : StyleExpression) : Prop :=
  ∀ s v, origin e s defines →
    keyOf (referencesOf e) e s defines = keyOf (referencesOf e) e scope defines →
    Styling.evalStyle s defines e = .ok v →
    Styling.outcome (Styling.evalStyle scope defines e) = v.toJson?

/-- A stored result is the outcome where results fit, and a new one is stored as it comes. -/
theorem evalRemembered_yields {e : StyleExpression} (horigin : origin e scope defines)
    (hfits : Fits origin scope defines e) :
    (evalRemembered scope defines e).Yields (Sound origin)
      (Styling.outcome (Styling.evalStyle scope defines e)) := by
  have hkeyText : (keyOf (e.texts.flatMap Placeholder.references) e scope defines).compact
      = keyText e scope defines := rfl
  refine (allReferences_yields e.texts).bind (Yields.once_bind fun memo hmemo ↦ ⟨?_, ?_⟩)
  · exact ⟨hmemo.references, hmemo.programs,
      fun entry hentry ↦ hmemo.results entry (Recent.mem_get hentry)⟩
  · simp only [result?, hkeyText]
    cases hfound : (memo.results.get (keyText e scope defines)).1 with
    | some v =>
      obtain ⟨f, s, d, horigin', hkey, hvalue⟩ := hmemo.results _ (Recent.mem_of_get hfound)
      obtain ⟨rfl, rfl, hkeys⟩ := eq_of_keyText hkey
      exact (hfits s v horigin' hkeys.symm hvalue).symm
    | none =>
      apply (evalStyle_yields e).bind
      cases hvalue : Styling.evalStyle scope defines e with
      | error fault => rfl
      | ok v =>
        refine Yields.once_bind fun memo hmemo ↦ ⟨⟨?_, ?_, fun entry hentry ↦ ?_⟩, rfl⟩
        · exact hmemo.references
        · exact hmemo.programs
        · rcases Recent.mem_put hentry with rfl | hmem
          · exact ⟨e, scope, defines, horigin, rfl, hvalue⟩
          · exact hmemo.results entry hmem

/-- With a sound memory a field has the value that it has without memory. -/
theorem evalField_yields {style : FieldStyle}
    (h : ∀ e, style.expression? = some e → origin e scope defines ∧ Fits origin scope defines e) :
    (evalField scope defines style).Yields (Sound origin)
      (Styling.evalField scope defines style) := by
  unfold evalField Styling.evalField
  cases hstyle : style.expression? with
  | none => rfl
  | some e => exact evalRemembered_yields (h e hstyle).1 (h e hstyle).2

end Task

end MapStyle
