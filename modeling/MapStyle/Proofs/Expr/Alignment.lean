import MapStyle.Expr.Parser
import MapStyle.Proofs.Expr.Reading
import MapStyle.Proofs.Placeholder.Bodies

/-!
# Placeholders of a text and of its expression

The scan for placeholders needs no grammar, and the parser does not use the scan. They agree: while
the parser reads an expression from the front of a text, the scan passes over the same characters
and finds exactly the placeholders of the expression, in the same order. This is stated once for a
reader and proved along the grammar, with one rule for every way to build a reader from others.
-/

namespace MapStyle.Expr

open Text

/-- The body of the placeholder that stands for a reading. -/
def Reading.body? : Reading → Option (List Char)
  | .name n => some n.toList
  | .path p => some p.source.toList
  | .feature => none

/-- The bodies of the placeholders that stand for readings. -/
def bodiesOf (readings : List Reading) : List (List Char) := readings.filterMap Reading.body?

/-- What the parser makes of the body of a placeholder: a name does not begin with a dollar sign,
and a path is the dollar sign alone or else a path for the scan too. -/
def Reading.Spelled : Reading → Prop
  | .name n => n.toList.head? ≠ some '$'
  | .path p => p.source.toList = ['$'] ∨ Placeholder.isPath p.source.toList = true
  | .feature => True

@[simp] theorem bodiesOf_nil : bodiesOf [] = [] := rfl

@[simp] theorem bodiesOf_append (l r : List Reading) :
    bodiesOf (l ++ r) = bodiesOf l ++ bodiesOf r :=
  List.filterMap_append

/-- A text makes the given readings up to the rest that is left of it. -/
structure Passes (text : List Char) (readings : List Reading) (rest : List Char) : Prop where
  suffix : rest <:+ text
  bodies : Placeholder.bodies text = bodiesOf readings ++ Placeholder.bodies rest
  spelled : ∀ r ∈ readings, r.Spelled
  feature : .feature ∈ readings → "feature".toList <:+: text

namespace Passes

variable {text s rest : List Char} {l r : List Reading}

theorem refl (text : List Char) : Passes text [] text :=
  ⟨List.suffix_refl text, rfl, by simp, by simp⟩

/-- One stretch of the text after another makes the readings of both. -/
theorem trans (hl : Passes text l s) (hr : Passes s r rest) : Passes text (l ++ r) rest where
  suffix := hr.suffix.trans hl.suffix
  bodies := by rw [hl.bodies, hr.bodies, bodiesOf_append, List.append_assoc]
  spelled := by
    intro reading hreading
    rcases List.mem_append.mp hreading with h | h
    · exact hl.spelled reading h
    · exact hr.spelled reading h
  feature := by
    intro hreading
    rcases List.mem_append.mp hreading with h | h
    · exact hl.feature h
    · exact (hr.feature h).trans hl.suffix.isInfix

/-- A reading of `feature` may be forgotten. -/
theorem weaken (h : Passes text l rest) (hmem : r ⊆ l) (hbodies : bodiesOf r = bodiesOf l) :
    Passes text r rest where
  suffix := h.suffix
  bodies := by rw [hbodies, h.bodies]
  spelled := fun reading hreading ↦ h.spelled reading (hmem hreading)
  feature := fun hreading ↦ h.feature (hmem hreading)

theorem of_neutral {cs : List Char} (h : ∀ c ∈ cs, Placeholder.Neutral c) :
    Passes (cs ++ rest) [] rest :=
  ⟨List.suffix_append cs rest, Placeholder.bodies_append_of_neutral h rest, by simp, by simp⟩

theorem dropWhile {p : Char → Bool} (h : ∀ c, p c = true → Placeholder.Neutral c)
    (text : List Char) : Passes text [] (text.dropWhile p) :=
  ⟨List.dropWhile_suffix p, (Placeholder.bodies_dropWhile h text).symm, by simp, by simp⟩

end Passes

/-! ## Readers and the scan -/

/-- The scan follows a reader: where the text before made the first readings, the text up to what
the reader leaves makes the readings of the value that was read. -/
def Spells {α : Type} (before : List Reading) (p : Reader α) (after : α → List Reading) : Prop :=
  ∀ ⦃text s rest : List Char⦄ ⦃a : α⦄,
    Passes text before s → p s = .ok a rest → Passes text (after a) rest

namespace Spells

variable {α β : Type} {before : List Reading} {p q : Reader α} {r : α → List Reading}
  {after : β → List Reading}

theorem intro (h : ∀ ⦃s rest : List Char⦄ ⦃a : α⦄, p s = .ok a rest → Passes s (r a) rest) :
    Spells [] p r :=
  fun _ _ _ _ hbefore hp ↦ hbefore.trans (h hp)

theorem elim {s rest : List Char} {a : α} (h : Spells [] p r) (hp : p s = .ok a rest) :
    Passes s (r a) rest :=
  h (Passes.refl s) hp

theorem frame (h : Spells [] p r) : Spells before p fun a ↦ before ++ r a :=
  fun _ _ _ _ hbefore hp ↦ hbefore.trans (h.elim hp)

/-- The second reader goes on where the first stopped, with its readings before it. -/
theorem bind {f : α → Reader β} (hp : Spells [] p r)
    (hf : ∀ a, Spells (before ++ r a) (f a) after) : Spells before (p >>= f) after := by
  intro text s rest b hbefore h
  rw [Reader.bind_apply] at h
  split at h
  · rename_i a t hpa
    exact hf a (hbefore.trans (hp.elim hpa)) h
  · contradiction
  · contradiction

/-- The readings so far may hold more readings of `feature` than those of the value. -/
theorem yield {b : β} (hmem : after b ⊆ before) (hbodies : bodiesOf (after b) = bodiesOf before) :
    Spells before (Reader.yield b) after := by
  intro text s rest a hbefore h
  cases h
  exact hbefore.weaken hmem hbodies

theorem fail : Spells before Reader.fail after := by
  intro text s rest a hbefore h
  contradiction

/-- The second reader starts where the first did, since a reader that misses takes nothing. -/
theorem orElse (hp : Spells before p r) (hq : Spells before q r) :
    Spells before (Reader.orElse p q) r := by
  intro text s rest a hbefore h
  rw [Reader.orElse] at h
  split at h
  · rename_i b t hpb
    cases h
    exact hp hbefore hpb
  · exact hq hbefore h
  · contradiction

theorem choice {ps : List (Reader α)} (h : ∀ p ∈ ps, Spells before p r) :
    Spells before (Reader.choice ps) r := by
  induction ps with
  | nil => exact fail
  | cons p ps ih => exact orElse (h p (by simp)) (ih fun q hq ↦ h q (by simp [hq]))

/-- The readings of a value that may be missing. -/
def ofOption (r : α → List Reading) : Option α → List Reading
  | some a => r a
  | none => []

/-- Where nothing is taken there are no readings. -/
theorem optional (hp : Spells [] p r) : Spells [] (Reader.optional p) (ofOption r) := by
  apply intro
  intro s rest a h
  rw [Reader.optional] at h
  split at h
  · rename_i b t hpb
    cases h
    exact hp.elim hpb
  · cases h
    exact Passes.refl s
  · contradiction

theorem attempt (hp : Spells [] p r) : Spells [] (Reader.attempt p) (ofOption r) := by
  apply intro
  intro s rest a h
  rw [Reader.attempt] at h
  split at h
  · rename_i b t hpb
    cases h
    exact hp.elim hpb
  · cases h
    exact Passes.refl s
  · cases h
    exact Passes.refl s

/-- The readings of repeated items stand in the order of the items. -/
theorem many (hp : Spells [] p r) : Spells [] (Reader.many p) (List.flatMap r) := by
  apply intro
  intro s
  fun_induction Reader.many p s with
  | case1 s hmiss =>
    intro rest as h
    cases h
    exact Passes.refl s
  | case2 s habort => exact fun rest as h ↦ nomatch h
  | case3 s a t hpa hlt as left hmany ih =>
    intro rest as' h
    cases h
    exact (hp.elim hpa).trans (ih hmany)
  | case4 => exact fun rest as h ↦ nomatch h
  | case5 => exact fun rest as h ↦ nomatch h
  | case6 => exact fun rest as h ↦ nomatch h

/-- Separators make no readings. -/
theorem separated {separator : Reader β} (hp : Spells [] p r)
    (hseparator : Spells [] separator fun _ ↦ []) :
    Spells [] (Reader.separated p separator) (List.flatMap r) := by
  have hnext : Spells [] (Reader.andThen separator fun _ ↦ p) r :=
    bind hseparator fun _ ↦ by simpa using hp
  apply intro
  intro s rest as h
  rw [Reader.separated] at h
  split at h
  · cases h
    exact Passes.refl s
  · contradiction
  · rename_i a t hpa
    split at h
    · rename_i others left hmany
      cases h
      exact (hp.elim hpa).trans ((many hnext).elim hmany)
    · contradiction
    · contradiction

/-! ## Tokens -/

/-- A neutral character makes no reading. -/
theorem satisfy {accept : Char → Bool} (h : ∀ c, accept c = true → Placeholder.Neutral c) :
    Spells [] (Reader.satisfy accept) fun _ ↦ [] := by
  apply intro
  intro s rest c hc
  cases s with
  | nil => contradiction
  | cons d s =>
    rw [Reader.satisfy] at hc
    split at hc
    · rename_i haccept
      cases hc
      have hneutral : ∀ d ∈ [c], Placeholder.Neutral d := by simpa using h c haccept
      exact Passes.of_neutral hneutral
    · contradiction

theorem char {c : Char} (h : Placeholder.Neutral c) : Spells [] (Reader.char c) fun _ ↦ [] :=
  satisfy fun d hd ↦ by rwa [eq_of_beq hd]

theorem run {accept : Char → Bool} (h : ∀ c, accept c = true → Placeholder.Neutral c) :
    Spells [] (Reader.run accept) fun _ ↦ [] := by
  apply intro
  intro s rest cs hcs
  cases hcs
  exact Passes.dropWhile h s

/-- A run of neutral characters makes no reading. -/
theorem run1 {accept : Char → Bool} (h : ∀ c, accept c = true → Placeholder.Neutral c) :
    Spells [] (Reader.run1 accept) fun _ ↦ [] := by
  apply intro
  intro s rest cs hcs
  rw [Reader.run1] at hcs
  split at hcs
  · contradiction
  · cases hcs
    exact Passes.dropWhile h s

theorem neutral_of_isTokenBlank (c : Char) (h : isTokenBlank c = true) : Placeholder.Neutral c := by
  simp only [isTokenBlank, Bool.or_eq_true, decide_eq_true_eq] at h
  rcases h with ((rfl | rfl) | rfl) | rfl <;> decide

/-- The scan passes over the blanks in front of a token. -/
theorem token (hp : Spells [] p r) : Spells [] (Reader.token p) r := by
  apply intro
  intro s rest a h
  rw [Reader.token] at h
  split at h
  · rename_i b t hpb
    cases h
    have hafter := (hp.elim hpb).trans (Passes.dropWhile neutral_of_isTokenBlank t)
    simpa using (Passes.dropWhile neutral_of_isTokenBlank s).trans hafter
  · contradiction
  · contradiction

theorem symbol {c : Char} (h : Placeholder.Neutral c) : Spells [] (Reader.symbol c) fun _ ↦ [] :=
  token (char h)

end Spells

theorem map_eq_ok {α β : Type} {f : α → β} {reply : Reply α} {b : β} {rest : List Char} :
    reply.map f = .ok b rest ↔ ∃ a, reply = .ok a rest ∧ f a = b := by
  cases reply <;> simp [Reply.map, and_comm]

/-- A reader of a given text leaves what stands behind that text. -/
theorem eq_append_of_text {cs s rest : List Char} {u : Unit}
    (h : Reader.text cs s = .ok u rest) : s = cs ++ rest := by
  fun_induction Reader.text cs s with
  | case1 s => cases h; rfl
  | case2 => contradiction
  | case3 c cs s ih => rw [ih h, List.cons_append]
  | case4 => contradiction

theorem Spells.text {cs : List Char} (h : ∀ c ∈ cs, Placeholder.Neutral c) :
    Spells [] (Reader.text cs) fun _ ↦ [] := by
  apply Spells.intro
  intro s rest u hu
  rw [eq_append_of_text hu]
  exact Passes.of_neutral h

end MapStyle.Expr
