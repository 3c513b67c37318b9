import MapStyle.Proofs.Expr.Grammar
import MapStyle.Proofs.Json.Compact
import MapStyle.Proofs.Placeholder.Narrow
import MapStyle.Proofs.Placeholder.Reference
import MapStyle.Styling.Memo

/-!
# What a key determines

A result is remembered under a key made from the style, the defines and a part of the scope. The key
holds enough of the scope as long as the references of the style tell all that it reads: replacing
defines must not bring in further placeholders, the dollar sign alone must not stand for all
properties, and a path must not hide the identifier behind it. Two scopes with one key then give the
style one value.
-/

namespace MapStyle

open Styling

/-! ## Scopes -/

theorem Scope.resolve_congr {s t : Scope} {name : String} (hname : name ≠ "id")
    (h : s.properties = t.properties) : s.resolve name = t.resolve name := by
  simp only [Scope.resolve, Scope.identifier?, if_neg hname, Scope.dotted?, h]

namespace Styling

theorem evalText_eq (scope : Scope) (defines : Option (Table String)) (source : String) :
    evalText scope defines source
      = (read (Placeholder.replaceDefines defines source)).bind (Expr.eval scope) := rfl

/-- Conditions with the same outcomes choose the same case. -/
theorem conditionsWith_congr {f g : String → Id (Except Expr.Fault Value)}
    {cases : List (String × String)}
    (h : ∀ pair ∈ cases, f pair.1 = g pair.1 ∧ f pair.2 = g pair.2) :
    conditionsWith (m := Id) f cases = conditionsWith (m := Id) g cases := by
  induction cases with
  | nil => rfl
  | cons pair rest ih =>
    have hpair := h pair (by simp)
    have hrest := ih fun other hother ↦ h other (by simp [hother])
    rw [conditionsWith, conditionsWith, hpair.1, hpair.2, hrest]

/-- The value of a style depends on the values of its texts alone. -/
theorem evalStyle_congr {s t : Scope} {defines : Option (Table String)} {e : StyleExpression}
    (h : ∀ text ∈ e.texts, evalText s defines text = evalText t defines text) :
    evalStyle s defines e = evalStyle t defines e := by
  cases e with
  | source text => exact h text (by simp [StyleExpression.texts])
  | conditions cases =>
    refine conditionsWith_congr fun pair hpair ↦ ⟨h _ ?_, h _ ?_⟩
    · exact List.mem_flatMap.mpr ⟨pair, hpair, by simp⟩
    · exact List.mem_flatMap.mpr ⟨pair, hpair, by simp⟩

end Styling

/-- Styles are told apart by how they are written. -/
theorem StyleExpression.toJson_injective {e f : StyleExpression} (h : e.toJson = f.toJson) :
    e = f := by
  have hpair : Function.Injective fun p : String × String ↦
      Json.array [.string p.1, .string p.2] := by
    rintro ⟨c, v⟩ ⟨d, w⟩ heq
    simpa using heq
  cases e with
  | source s =>
    cases f with
    | source t => simpa [StyleExpression.toJson] using h
    | conditions cases => simp [StyleExpression.toJson] at h
  | conditions cases =>
    cases f with
    | source t => simp [StyleExpression.toJson] at h
    | conditions others =>
      simp only [StyleExpression.toJson, Json.object.injEq, List.cons.injEq, Prod.mk.injEq,
        Json.array.injEq, true_and, and_true] at h
      rw [List.map_injective_iff.mpr hpair h]

namespace Memo

/-! ## Parts of a key -/

/-- The references of a style, without memory. -/
def referencesOf (e : StyleExpression) : List String := e.texts.flatMap Placeholder.references

/-- The properties that the key of a result holds. -/
def readable (references : List String) (e : StyleExpression) (scope : Scope) : Table Json :=
  if references.contains Placeholder.identifierMark || mentionsFeature e then scope.properties
  else Placeholder.narrow references (scope.id.getD "") scope.properties

/-- One key stands for one style with one list of defines, for one list of readable properties, and
for one identifier where the style reads it. -/
theorem keyOf_inj {references : List String} {e : StyleExpression} {s t : Scope}
    {c d : Option (Table String)} (h : keyOf references e s c = keyOf references e t d) :
    c = d ∧ readable references e s = readable references e t ∧
      (Placeholder.identifierMark ∈ references → s.id = t.id) := by
  simp only [keyOf, Json.array.injEq, List.cons.injEq, Json.object.injEq, true_and, and_true] at h
  obtain ⟨hreadable, hdefines, hid⟩ := h
  refine ⟨?_, hreadable, fun hmark ↦ ?_⟩
  · have hmap : Function.Injective fun p : String × String ↦ (p.1, Json.string p.2) := by
      rintro ⟨k, v⟩ ⟨l, w⟩ heq
      simpa using heq
    cases c <;> cases d <;> simp [Table.mapValues] at hdefines
    · rfl
    · rw [List.map_injective_iff.mpr hmap hdefines]
  · have hcontains : references.contains Placeholder.identifierMark = true := by simpa using hmark
    rw [if_pos hcontains, if_pos hcontains] at hid
    cases hs : s.id <;> cases ht : t.id <;> simp_all

theorem mentions_iff (word text : List Char) : mentions word text = true ↔ word <:+: text := by
  induction text with
  | nil => simp [mentions]
  | cons c text ih =>
    rw [mentions, Bool.or_eq_true, List.isPrefixOf_iff_prefix, ih, List.infix_cons_iff]

/-! ## Covered styles -/

/-- The references of a style tell all that it reads. -/
structure Covered (e : StyleExpression) (defines : Option (Table String)) : Prop where
  unreplaced : ∀ text ∈ e.texts, Placeholder.replaceDefines defines text = text
  noRoot : ∀ text ∈ e.texts, ['$'] ∉ Placeholder.bodies text.toList
  noPathBeforeId : ∀ text ∈ e.texts, (Placeholder.bodies text.toList).Pairwise
    fun body later ↦ Placeholder.isPath body = true → later ≠ ['i', 'd']

/-- Two scopes give a style one value whenever they have one key. -/
def KeyDetermines (e : StyleExpression) (defines : Option (Table String)) : Prop :=
  ∀ s t : Scope, keyOf (referencesOf e) e s defines = keyOf (referencesOf e) e t defines →
    Styling.evalStyle s defines e = Styling.evalStyle t defines e

variable {e : StyleExpression} {defines : Option (Table String)} {s t : Scope}

theorem mem_bodies_of_reads {text : String} {x : Expr} {r : Expr.Reading} {body : List Char}
    (hx : Expr.parse? text = some x) (hr : r ∈ x.reads) (hbody : r.body? = some body) :
    body ∈ Placeholder.bodies text.toList := by
  rw [Expr.bodies_of_parse? hx]
  exact List.mem_filterMap.mpr ⟨r, hr, hbody⟩

/-- Where the references of a covered style have no mark for the identifier, no name that the style
reads is the identifier. -/
theorem name_ne_id (h : Covered e defines) (hmark : Placeholder.identifierMark ∉ referencesOf e)
    {text : String} (htext : text ∈ e.texts) {x : Expr} (hx : Expr.parse? text = some x)
    {n : String} (hn : .name n ∈ x.reads) : n ≠ "id" := by
  rintro rfl
  have hid : ['i', 'd'] ∈ Placeholder.bodies text.toList := mem_bodies_of_reads hx hn rfl
  have hmem := Placeholder.identifierMark_mem_ofBodies (h.noPathBeforeId text htext) hid
  exact hmark (List.mem_flatMap.mpr ⟨text, htext, hmem⟩)

/-- Without the identifier, a covered style reads nothing but the properties. -/
theorem agreeOn_of_properties (h : Covered e defines)
    (hmark : Placeholder.identifierMark ∉ referencesOf e)
    (hproperties : s.properties = t.properties)
    {text : String} (htext : text ∈ e.texts) {x : Expr} (hx : Expr.parse? text = some x) :
    Expr.AgreeOn s t x.reads := by
  intro r hr
  cases r with
  | name n => exact Scope.resolve_congr (name_ne_id h hmark htext hx hr) hproperties
  | path p => simp only [Expr.Reading.Agrees, hproperties]
  | feature => exact hproperties

/-- Where the references of a covered style have no mark at all, the narrowed properties decide what
the style reads by name. -/
theorem agreeOn_of_narrow (h : Covered e defines)
    (hmark : Placeholder.identifierMark ∉ referencesOf e)
    (hpath : Placeholder.pathMark ∉ referencesOf e)
    (hfeature : mentionsFeature e = false)
    (hnarrow : Placeholder.narrow (referencesOf e) (s.id.getD "") s.properties
      = Placeholder.narrow (referencesOf e) (t.id.getD "") t.properties)
    {text : String} (htext : text ∈ e.texts) {x : Expr} (hx : Expr.parse? text = some x) :
    Expr.AgreeOn s t x.reads := by
  have hlisted := Placeholder.ofBodies_of_no_mark (Placeholder.bodies text.toList)
    (fun hmem ↦ hmark (List.mem_flatMap.mpr ⟨text, htext, hmem⟩))
    (fun hmem ↦ hpath (List.mem_flatMap.mpr ⟨text, htext, hmem⟩))
  have hpasses := Expr.passes_of_parse? hx
  intro r hr
  cases r with
  | name n =>
    have hbody : n.toList ∈ Placeholder.bodies text.toList := mem_bodies_of_reads hx hr rfl
    have hmem : n ∈ referencesOf e := by
      refine List.mem_flatMap.mpr ⟨text, htext, ?_⟩
      rw [Placeholder.references, hlisted.1]
      exact List.mem_map.mpr ⟨n.toList, hbody, String.ofList_toList⟩
    calc s.resolve n
        = (Placeholder.narrowed (referencesOf e) (s.id.getD "") s).resolve n :=
          (Placeholder.resolve_narrowed hmark hmem _ s).symm
      _ = (Placeholder.narrowed (referencesOf e) (t.id.getD "") t).resolve n :=
          Scope.resolve_congr (name_ne_id h hmark htext hx hr) hnarrow
      _ = t.resolve n := Placeholder.resolve_narrowed hmark hmem _ t
  | path p =>
    have hbody : p.source.toList ∈ Placeholder.bodies text.toList := mem_bodies_of_reads hx hr rfl
    rcases hpasses.spelled _ hr with hroot | hisPath
    · exact absurd (hroot ▸ hbody) (h.noRoot text htext)
    · have hnone := hlisted.2 _ hbody
      rw [Placeholder.markOf?_of_isPath hisPath] at hnone
      contradiction
  | feature =>
    have hmentions : mentionsFeature e = true :=
      List.any_eq_true.mpr ⟨text, htext, (mentions_iff _ _).mpr (hpasses.feature hr)⟩
    rw [hfeature] at hmentions
    contradiction

/-- The key of a covered style determines its value. -/
theorem keyDetermines_of_covered (h : Covered e defines) : KeyDetermines e defines := by
  intro s t hkey
  obtain ⟨-, hreadable, hid⟩ := keyOf_inj hkey
  apply evalStyle_congr
  intro text htext
  rw [evalText_eq, evalText_eq, h.unreplaced text htext, Styling.read]
  cases hx : Expr.parse? text with
  | none => rfl
  | some x =>
    apply Expr.eval_congr
    by_cases hmark : Placeholder.identifierMark ∈ referencesOf e
    · have hproperties : s.properties = t.properties := by simpa [readable, hmark] using hreadable
      have hscope : s = t := by
        cases s
        cases t
        rw [Scope.mk.injEq]
        exact ⟨hid hmark, hproperties⟩
      rw [hscope]
      intro r _
      cases r <;> rfl
    · cases hfeature : mentionsFeature e with
      | true =>
        have hproperties : s.properties = t.properties := by
          simpa [readable, hfeature] using hreadable
        exact agreeOn_of_properties h hmark hproperties htext hx
      | false =>
        have hnarrow : Placeholder.narrow (referencesOf e) (s.id.getD "") s.properties
            = Placeholder.narrow (referencesOf e) (t.id.getD "") t.properties := by
          simpa [readable, hmark, hfeature] using hreadable
        by_cases hpath : Placeholder.pathMark ∈ referencesOf e
        · have hproperties : s.properties = t.properties := by
            simpa [Placeholder.narrow, hpath] using hnarrow
          exact agreeOn_of_properties h hmark hproperties htext hx
        · exact agreeOn_of_narrow h hmark hpath hfeature hnarrow htext hx

end Memo

end MapStyle
