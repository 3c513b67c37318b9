import Mathlib.Data.Set.Functor
import MapStyle.Proofs.Styling.Transparent
import MapStyle.Proofs.Table

/-!
# Results that are found again

With room for all results that can come up, the results of a memory only grow: what is stored under
a key stays, and a field whose key is stored has the outcome of what is stored. The outcome of a
field is bounded in this way by the results at the beginning and at the end of an evaluation. This
holds for whole layers too, so that a result can be followed from the scope it was stored for to
every other scope with the same key.
-/

namespace MapStyle

open Styling

attribute [local instance] Set.monad

/-! ## Sets of possible appearances -/

namespace Styling

variable {possible : FieldStyle → Set (Option Json)}

/-- A field without a value is left out, and no other name comes in. -/
theorem mem_keys_of_mem_fieldsWith {fields : CategoryStyle} {values : Table Json}
    (h : values ∈ fieldsWith (m := Set) possible fields) {name : String}
    (hname : name ∈ values.map (·.1)) : name ∈ fields.map (·.1) := by
  induction fields generalizing values with
  | nil =>
    cases h
    contradiction
  | cons field rest ih =>
    simp only [fieldsWith, Set.bind_def, Set.mem_iUnion, exists_prop, Set.pure_def,
      Set.mem_singleton_iff] at h
    obtain ⟨value, -, others, hothers, rfl⟩ := h
    cases value with
    | none => exact List.mem_cons_of_mem _ (ih hothers hname)
    | some v =>
      rcases List.mem_cons.mp hname with rfl | hrest
      · exact List.mem_cons_self
      · exact List.mem_cons_of_mem _ (ih hothers hrest)

/-- Of fields with distinct names each has one of its possible values. -/
theorem get?_of_mem_fieldsWith {fields : CategoryStyle} {values : Table Json}
    (hnodup : (fields.map (·.1)).Nodup) (h : values ∈ fieldsWith (m := Set) possible fields)
    {field : String × FieldStyle} (hfield : field ∈ fields) :
    Table.get? values field.1 ∈ possible field.2 := by
  induction fields generalizing values with
  | nil => contradiction
  | cons first rest ih =>
    simp only [fieldsWith, Set.bind_def, Set.mem_iUnion, exists_prop, Set.pure_def,
      Set.mem_singleton_iff] at h
    obtain ⟨value, hvalue, others, hothers, rfl⟩ := h
    rw [List.map_cons, List.nodup_cons] at hnodup
    rcases List.mem_cons.mp hfield with rfl | hrest
    · cases value with
      | none =>
        rw [Table.get?_eq_none fun hname ↦ hnodup.1 (mem_keys_of_mem_fieldsWith hothers hname)]
        exact hvalue
      | some v => simpa [Table.get?] using hvalue
    · have hne : first.1 ≠ field.1 := fun heq ↦
        hnodup.1 (heq ▸ List.mem_map.mpr ⟨field, hrest, rfl⟩)
      cases value with
      | none => exact ih hnodup.2 hothers hrest
      | some v =>
        rw [Table.get?, if_neg hne]
        exact ih hnodup.2 hothers hrest

theorem get?_of_mem_appearancesWith {styles : ByCategory CategoryStyle} {a : Appearances}
    (h : a ∈ appearancesWith (m := Set) possible styles) (c : Category) :
    a.get? c ∈ categoryWith (m := Set) possible (styles.get? c) := by
  simp only [appearancesWith, Set.bind_def, Set.mem_iUnion, exists_prop, Set.pure_def,
    Set.mem_singleton_iff] at h
  obtain ⟨m1, h1, m2, h2, m3, h3, m4, h4, m5, h5, m6, h6, m7, h7, m8, h8, rfl⟩ := h
  cases c <;> assumption

/-- The styles name each field of a category once. -/
def NamedOnce (styles : ByCategory CategoryStyle) : Prop :=
  ∀ c fields, styles.get? c = some fields → Table.Ordered fields

/-- A field of possible appearances has one of its possible values. -/
theorem field?_of_mem_appearancesWith {styles : ByCategory CategoryStyle} {a : Appearances}
    (hnamed : NamedOnce styles) (h : a ∈ appearancesWith (m := Set) possible styles) {c : Category}
    {fields : CategoryStyle} (hfields : styles.get? c = some fields) {field : String × FieldStyle}
    (hfield : field ∈ fields) : a.field? c field.1 ∈ possible field.2 := by
  have hcategory := get?_of_mem_appearancesWith h c
  simp only [hfields, categoryWith, Set.bind_def, Set.mem_iUnion, exists_prop, Set.pure_def,
    Set.mem_singleton_iff] at hcategory
  obtain ⟨values, hvalues, heq⟩ := hcategory
  rw [Appearances.field?, heq, Option.bind_some]
  exact get?_of_mem_fieldsWith (hnamed c fields hfields).nodup hvalues hfield

theorem respects_mem : Respects Id Set fun _ a S ↦ a ∈ S where
  pure := fun _ ↦ rfl
  bind := by
    intro α β x S f T hx hf
    simp only [Set.bind_def, Set.mem_iUnion, exists_prop]
    exact ⟨x, hx, hf x⟩

/-- A field of appearances that are evaluated without memory. -/
theorem field?_appearancesWith {styles : ByCategory CategoryStyle} (hnamed : NamedOnce styles)
    (value : FieldStyle → Option Json) {c : Category} {fields : CategoryStyle}
    (hfields : styles.get? c = some fields) {field : String × FieldStyle}
    (hfield : field ∈ fields) :
    (appearancesWith (m := Id) value styles).field? c field.1 = value field.2 := by
  have hmem : appearancesWith (m := Id) value styles
      ∈ appearancesWith (m := Set) (fun style ↦ {value style}) styles :=
    respects_mem.appearancesWith fun _ _ _ _ _ ↦ rfl
  exact field?_of_mem_appearancesWith hnamed hmem hfields hfield

end Styling

/-! ## Memories with room -/

namespace Memo

/-- A sound memory with room for the results of all keys that can come up. -/
structure Roomy (origin : Origin) (keys : List String) (memo : Memo) : Prop where
  sound : Sound origin memo
  nodup : memo.results.keys.Nodup
  room : keys.length ≤ memo.results.window

/-- What is stored in one memory is stored in another. -/
def Within (found found' : String → Option Value) : Prop :=
  ∀ key v, found key = some v → found' key = some v

theorem Within.refl (found : String → Option Value) : Within found found := fun _ _ h ↦ h

theorem Within.trans {f g h : String → Option Value} (hfg : Within f g) (hgh : Within g h) :
    Within f h :=
  fun key v hv ↦ hgh key v (hfg key v hv)

variable {origin : Origin} {keys : List String} {memo : Memo}

/-- All keys that come up are among the given ones. -/
def Listed (origin : Origin) (keys : List String) : Prop :=
  ∀ e scope defines, origin e scope defines → keyText e scope defines ∈ keys

/-- A memory with room has room for one more key. -/
theorem Roomy.room_for (h : Roomy origin keys memo) (hlisted : Listed origin keys) {key : String}
    (hkey : key ∈ keys) : (memo.results.others key).length < memo.results.window := by
  have hsubset : ((key, (Value.undefined)) :: memo.results.others key).map (·.1) ⊆ keys := by
    intro other hother
    rcases List.mem_cons.mp hother with rfl | hmem
    · exact hkey
    · obtain ⟨entry, hentry, rfl⟩ := List.mem_map.mp hmem
      obtain ⟨e, scope, defines, horigin, heq, -⟩ :=
        h.sound.results entry (Recent.mem_of_mem_others hentry)
      rw [heq]
      exact hlisted e scope defines horigin
  have hnodup := Recent.nodup_keys_cons_others h.nodup key Value.undefined
  have hle := (hnodup.subperm hsubset).length_le
  simp only [List.length_map, List.length_cons] at hle
  exact Nat.lt_of_lt_of_le (Nat.lt_of_succ_le hle) h.room

/-! ## One field -/

/-- Evaluating leaves the results alone. -/
theorem results_evalStyle (scope : Scope) (defines : Option (Table String)) (e : StyleExpression)
    (memo : Memo) : (evalStyle scope defines e memo).2.results = memo.results := by
  have hrespects : Respects (StateM Memo) Id fun _ act _ ↦
      ∀ memo, (act memo).2.results = memo.results := by
    refine ⟨fun _ _ ↦ rfl, fun hact hf memo ↦ ?_⟩
    exact (hf _ _).trans (hact memo)
  have htext (source : String) := hrespects.textWith (f := fun s ↦ onPrograms (program s))
    (g := Styling.read) (fun source memo ↦ rfl) scope defines source
  exact hrespects.styleWith (g := Styling.evalText scope defines) htext e memo

theorem evalStyle_gives (scope : Scope) (defines : Option (Table String)) (e : StyleExpression) :
    Gives (Sound origin) _ (evalStyle scope defines e) (Styling.evalStyle scope defines e) :=
  .of_yields (Task.evalStyle_yields e) (Task.evalStyle_does scope defines e)

theorem styleReferences_gives (e : StyleExpression) :
    Gives (Sound origin) _ (onReferences (styleReferences e)) (referencesOf e) :=
  .of_yields (Task.allReferences_yields e.texts) (Task.allReferences_does e.texts)

/-- What the evaluation of a style answers and what becomes of the results: a stored result is
found, a new one is stored, or there is none to store. -/
inductive Answered (scope : Scope) (defines : Option (Table String)) (e : StyleExpression)
    (results : Recent Value) : Option Json → Recent Value → Prop
  | found {v : Value} (hfound : results.find? (keyText e scope defines) = some v) :
      Answered scope defines e results v.toJson? (results.get (keyText e scope defines)).2
  | stored {v : Value} (hnone : results.find? (keyText e scope defines) = none)
      (hvalue : Styling.evalStyle scope defines e = .ok v) :
      Answered scope defines e results v.toJson? (results.put (keyText e scope defines) v)
  | failed {fault : Expr.Fault} (hnone : results.find? (keyText e scope defines) = none)
      (hfault : Styling.evalStyle scope defines e = .error fault) :
      Answered scope defines e results none results

variable {scope : Scope} {defines : Option (Table String)} {e : StyleExpression}

/-- A result that is found leaves the memory sound. -/
theorem answered_of_some (hmemo : Sound origin memo) {v : Value}
    (hfound : memo.results.find? (keyText e scope defines) = some v) :
    Sound origin (evalRemembered scope defines e memo).2 ∧
      Answered scope defines e memo.results (evalRemembered scope defines e memo).1
        (evalRemembered scope defines e memo).2.results := by
  obtain ⟨hreferences, hsound⟩ := styleReferences_gives e memo hmemo
  have hresults : (onReferences (styleReferences e) memo).2.results = memo.results := rfl
  generalize hact : onReferences (styleReferences e) memo = out at hreferences hsound hresults
  obtain ⟨references, memo1⟩ := out
  dsimp only at hreferences hsound hresults
  subst hreferences
  have hget : memo.results.get (keyText e scope defines)
      = (some v, (memo.results.get (keyText e scope defines)).2) := by
    simp [Recent.get, hfound]
  have hrun : evalRemembered scope defines e memo = (v.toJson?,
      { memo1 with results := (memo.results.get (keyText e scope defines)).2 }) := by
    have hkey : (keyOf (referencesOf e) e scope defines).compact = keyText e scope defines := rfl
    simp only [evalRemembered, bind, StateT.bind, hact, result?, hkey, hresults]
    rw [hget]
    rfl
  rw [hrun]
  refine ⟨⟨hsound.references, hsound.programs, fun entry hentry ↦ ?_⟩, .found hfound⟩
  exact hmemo.results entry (Recent.mem_get hentry)

/-- A style without a stored result is evaluated, and its value is stored. -/
theorem answered_of_none (hmemo : Sound origin memo) (horigin : origin e scope defines)
    (hnone : memo.results.find? (keyText e scope defines) = none) :
    Sound origin (evalRemembered scope defines e memo).2 ∧
      Answered scope defines e memo.results (evalRemembered scope defines e memo).1
        (evalRemembered scope defines e memo).2.results := by
  obtain ⟨hreferences, hsound⟩ := styleReferences_gives e memo hmemo
  have hresults : (onReferences (styleReferences e) memo).2.results = memo.results := rfl
  generalize hact : onReferences (styleReferences e) memo = out at hreferences hsound hresults
  obtain ⟨references, memo1⟩ := out
  dsimp only at hreferences hsound hresults
  subst hreferences
  have hget : memo.results.get (keyText e scope defines) = (none, memo.results) := by
    simp [Recent.get, hnone]
  have hsame : ({ memo1 with results := memo.results } : Memo) = memo1 := by rw [← hresults]
  obtain ⟨hvalue, hsound'⟩ := evalStyle_gives scope defines e memo1 hsound
  have hresults' := results_evalStyle scope defines e memo1
  generalize hout : evalStyle scope defines e memo1 = out at hvalue hsound' hresults'
  obtain ⟨answer, memo2⟩ := out
  dsimp only at hvalue hsound' hresults'
  rw [hresults] at hresults'
  have hkey : (keyOf (referencesOf e) e scope defines).compact = keyText e scope defines := rfl
  cases answer with
  | error fault =>
    have hrun : evalRemembered scope defines e memo = (none, memo2) := by
      simp only [evalRemembered, bind, StateT.bind, hact, result?, hkey, hresults, hget, hsame,
        hout]
      rfl
    rw [hrun, hresults']
    exact ⟨hsound', .failed hnone hvalue.symm⟩
  | ok v =>
    have hrun : evalRemembered scope defines e memo = (v.toJson?,
        { memo2 with results := memo2.results.put (keyText e scope defines) v }) := by
      simp only [evalRemembered, bind, StateT.bind, hact, result?, hkey, hresults, hget, hsame,
        hout]
      rfl
    rw [hrun, hresults']
    refine ⟨⟨hsound'.references, hsound'.programs, fun entry hentry ↦ ?_⟩,
      .stored hnone hvalue.symm⟩
    rcases Recent.mem_put hentry with rfl | hmem
    · exact ⟨e, scope, defines, horigin, rfl, hvalue.symm⟩
    · exact hmemo.results entry hmem

/-- The evaluation of a style finds a result, stores one, or comes to a fault. -/
theorem evalRemembered_answered (hmemo : Sound origin memo) (horigin : origin e scope defines) :
    Sound origin (evalRemembered scope defines e memo).2 ∧
      Answered scope defines e memo.results (evalRemembered scope defines e memo).1
        (evalRemembered scope defines e memo).2.results := by
  cases hfound : memo.results.find? (keyText e scope defines) with
  | some v => exact answered_of_some hmemo hfound
  | none => exact answered_of_none hmemo horigin hfound

variable {results results' : Recent Value} {a : Option Json}

theorem Answered.window (h : Answered scope defines e results a results') :
    results'.window = results.window := by
  cases h with
  | found _ => exact Recent.window_get
  | stored _ _ => exact Recent.window_put
  | failed _ _ => rfl

theorem Answered.nodup (h : Answered scope defines e results a results')
    (hnodup : results.keys.Nodup) : results'.keys.Nodup := by
  cases h with
  | found _ => exact Recent.nodup_keys_get hnodup
  | stored _ _ => exact Recent.nodup_keys_put hnodup
  | failed _ _ => exact hnodup

/-- With room for one more key nothing that is stored is lost. -/
theorem Answered.within (h : Answered scope defines e results a results')
    (hroom : (results.others (keyText e scope defines)).length < results.window) :
    Within results.find? results'.find? := by
  intro other w hw
  cases h with
  | found _ => rwa [Recent.find?_get]
  | stored hnone _ =>
    have hne : other ≠ keyText e scope defines := by
      rintro rfl
      rw [hnone] at hw
      contradiction
    rwa [Recent.find?_put_of_ne hne hroom]
  | failed _ _ => exact hw

/-- A result that was there before is the answer. -/
theorem Answered.of_before (h : Answered scope defines e results a results') {w : Value}
    (hw : results.find? (keyText e scope defines) = some w) : a = w.toJson? := by
  cases h with
  | found hfound =>
    rw [hw] at hfound
    rw [Option.some.inj hfound]
  | stored hnone _ =>
    rw [hw] at hnone
    contradiction
  | failed hnone _ =>
    rw [hw] at hnone
    contradiction

/-- The answer of a style that has a value is the result that is there afterwards. -/
theorem Answered.exists_after (h : Answered scope defines e results a results') {v : Value}
    (hv : Styling.evalStyle scope defines e = .ok v) :
    ∃ w, results'.find? (keyText e scope defines) = some w ∧ a = w.toJson? := by
  cases h with
  | found hfound => exact ⟨_, by rwa [Recent.find?_get], rfl⟩
  | stored _ _ => exact ⟨_, by rw [Recent.find?_put_self], rfl⟩
  | failed _ hfault =>
    rw [hv] at hfault
    contradiction

/-! ## Whole appearances -/

/-- With the results at the beginning and at the end bounded, a computation keeps the memory roomy,
only adds results, and gives one of some values. -/
def Between (origin : Origin) (keys : List String) (before after : String → Option Value)
    (α : Type) (act : StateM Memo α) (possible : Set α) : Prop :=
  ∀ memo, Roomy origin keys memo → Within before memo.results.find? →
    Roomy origin keys (act memo).2 ∧
      Within memo.results.find? (act memo).2.results.find? ∧
      (Within (act memo).2.results.find? after → (act memo).1 ∈ possible)

variable {before after : String → Option Value}

/-- Bounds on the results pass through a succession, as results are only added. -/
theorem respects_between :
    Respects (StateM Memo) Set (Between origin keys before after) where
  pure := fun a memo hroomy _ ↦ ⟨hroomy, .refl _, fun _ ↦ rfl⟩
  bind := by
    intro α β act possible f g hact hf memo hroomy hbefore
    obtain ⟨hroomy1, hgrows1, hmem1⟩ := hact memo hroomy hbefore
    obtain ⟨hroomy2, hgrows2, hmem2⟩ := hf (act memo).1 (act memo).2 hroomy1 (hbefore.trans hgrows1)
    refine ⟨hroomy2, hgrows1.trans hgrows2, fun hafter ↦ ?_⟩
    simp only [Set.bind_def, Set.mem_iUnion, exists_prop]
    exact ⟨(act memo).1, hmem1 (hgrows2.trans hafter), hmem2 hafter⟩

/-- The values that the results before and after the evaluation of a field leave it: that of the
result that was there before, and that of the result that is there afterwards, if the field has a
value. -/
def bounded (before after : String → Option Value) (scope : Scope)
    (defines : Option (Table String)) (style : FieldStyle) : Set (Option Json) :=
  {a | ∀ e, style.expression? = some e →
    (∀ w, before (keyText e scope defines) = some w → a = w.toJson?) ∧
    ∀ v, Styling.evalStyle scope defines e = .ok v →
      ∃ w, after (keyText e scope defines) = some w ∧ a = w.toJson?}

/-- A style has the value of the result under its key, whether it is found there or stored. -/
theorem evalRemembered_between (hlisted : Listed origin keys)
    (horigin : origin e scope defines) :
    Between origin keys before after _ (evalRemembered scope defines e)
      (bounded before after scope defines (.expression e)) := by
  intro memo hroomy hbefore
  obtain ⟨hsound, hanswered⟩ := evalRemembered_answered hroomy.sound horigin
  have hroom := hroomy.room_for hlisted (hlisted e scope defines horigin)
  refine ⟨⟨hsound, hanswered.nodup hroomy.nodup, ?_⟩, hanswered.within hroom, fun hafter ↦ ?_⟩
  · rw [hanswered.window]
    exact hroomy.room
  · rintro _ ⟨⟩
    refine ⟨fun w hw ↦ hanswered.of_before (hbefore _ w hw), fun v hv ↦ ?_⟩
    obtain ⟨w, hw, ha⟩ := hanswered.exists_after hv
    exact ⟨w, hafter _ w hw, ha⟩

/-- A field that is no expression does not touch the memory. -/
theorem evalField_between (hlisted : Listed origin keys) {style : FieldStyle}
    (horigin : ∀ e, style.expression? = some e → origin e scope defines) :
    Between origin keys before after _ (evalField scope defines style)
      (bounded before after scope defines style) := by
  unfold evalField
  cases hstyle : style.expression? with
  | none =>
    refine fun memo hroomy _ ↦ ⟨hroomy, .refl _, fun _ e he ↦ ?_⟩
    rw [hstyle] at he
    contradiction
  | some e =>
    intro memo hroomy hbefore
    have hremembered : Between origin keys before after _ (evalRemembered scope defines e) _ :=
      evalRemembered_between hlisted (horigin e hstyle)
    obtain ⟨hroomy1, hgrows, hmem⟩ := hremembered memo hroomy hbefore
    refine ⟨hroomy1, hgrows, fun hafter other hother ↦ ?_⟩
    exact hmem hafter other (by rwa [hstyle] at hother)

theorem appearances_between (hlisted : Listed origin keys) {styles : ByCategory CategoryStyle}
    (horigin : ∀ c fields, styles.get? c = some fields → ∀ field ∈ fields,
      ∀ e, field.2.expression? = some e → origin e scope defines) :
    Between origin keys before after _ (appearancesWith (evalField scope defines) styles)
      (appearancesWith (m := Set) (bounded before after scope defines) styles) :=
  respects_between.appearancesWith fun c fields hfields field hfield ↦
    evalField_between hlisted (horigin c fields hfields field hfield)

/-- Evaluation in a roomy memory leaves a roomy memory. -/
theorem Roomy.appearances (hroomy : Roomy origin keys memo) (hlisted : Listed origin keys)
    {styles : ByCategory CategoryStyle}
    (horigin : ∀ c fields, styles.get? c = some fields → ∀ field ∈ fields,
      ∀ e, field.2.expression? = some e → origin e scope defines) :
    Roomy origin keys (appearancesWith (evalField scope defines) styles memo).2 := by
  have hbetween : Between origin keys (fun _ ↦ none) (fun _ ↦ none) _ _ _ :=
    appearances_between hlisted horigin
  exact (hbetween memo hroomy fun _ _ h ↦ nomatch h).1

/-- What a field came to in one scope it comes to in the next scope with the same key. -/
theorem field?_found_again (hlisted : Listed origin keys) {styles : ByCategory CategoryStyle}
    (hnamed : NamedOnce styles) {s t : Scope}
    (hs : ∀ c fields, styles.get? c = some fields → ∀ field ∈ fields,
      ∀ e, field.2.expression? = some e → origin e s defines)
    (ht : ∀ c fields, styles.get? c = some fields → ∀ field ∈ fields,
      ∀ e, field.2.expression? = some e → origin e t defines)
    (hroomy : Roomy origin keys memo) {c : Category} {fields : CategoryStyle}
    (hfields : styles.get? c = some fields) {field : String × FieldStyle} (hfield : field ∈ fields)
    {e : StyleExpression} (he : field.2.expression? = some e) {v : Value}
    (hvalue : Styling.evalStyle s defines e = .ok v)
    (hkey : keyText e s defines = keyText e t defines) :
    (appearancesWith (evalField t defines) styles
        (appearancesWith (evalField s defines) styles memo).2).1.field? c field.1
      = (appearancesWith (evalField s defines) styles memo).1.field? c field.1 := by
  have hnone : Within (fun _ ↦ none) memo.results.find? := fun _ _ h ↦ nomatch h
  obtain ⟨hroomy1, -, hmem1⟩ := appearances_between hlisted hs memo hroomy hnone
  obtain ⟨-, -, hmem2⟩ := appearances_between hlisted ht _ hroomy1 (.refl _)
  have hfirst := field?_of_mem_appearancesWith hnamed (hmem1 (.refl _)) hfields hfield e he
  have hsecond := field?_of_mem_appearancesWith hnamed (hmem2 (.refl _)) hfields hfield e he
  obtain ⟨w, hw, hanswer⟩ := hfirst.2 v hvalue
  rw [hanswer]
  exact hsecond.1 w (hkey ▸ hw)

end Memo

end MapStyle
