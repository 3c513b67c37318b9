import MapStyle.Placeholder.Define
import MapStyle.Proofs.Placeholder.Bodies

/-!
# Expansion along a text

Replacing the defines passes over every character that opens no placeholder, and quotes are nothing
special to it. A text is tidy if that makes no difference: no string holds the opening of a
placeholder, and what a placeholder names stands without blanks between its braces.
-/

namespace MapStyle.Placeholder

open Text

variable {defines : Table String} {c : Char} {rest body after : List Char}

/-! ## Expansion -/

theorem expand_cons (h : c = '$' → rest.head? ≠ some '{') :
    expand defines (c :: rest) = c :: expand defines rest := by
  rw [expand]
  rintro after hc rfl
  exact h hc rfl

/-- A placeholder is replaced, and what stands behind it is expanded on its own. -/
theorem expand_placeholder (h : ∀ c ∈ body, c ≠ '}') (after : List Char) :
    expand defines ('$' :: '{' :: (body ++ '}' :: after))
      = expansion defines body ++ expand defines after := by
  rw [expand]
  split
  · rename_i hnone
    rw [splitBody?_append h] at hnone
    contradiction
  · rename_i hsome
    rw [splitBody?_append h, Option.some.injEq, Prod.mk.injEq] at hsome
    obtain ⟨rfl, rfl⟩ := hsome
    rfl

theorem expand_append_of_neutral {cs : List Char} (h : ∀ c ∈ cs, Neutral c) (rest : List Char) :
    expand defines (cs ++ rest) = cs ++ expand defines rest := by
  induction cs with
  | nil => rfl
  | cons c cs ih =>
    have hc : c ≠ '$' := (h c (by simp)).1
    rw [List.cons_append, expand_cons fun hdollar ↦ absurd hdollar hc,
      ih fun d hd ↦ h d (by simp [hd]), List.cons_append]

/-- Where no placeholder opens in a text, nor at its end, the text stays as it is. -/
theorem expand_append_of_no_opening {cs : List Char} (h : ¬ ['$', '{'] <:+: cs)
    (hrest : rest.head? ≠ some '{') : expand defines (cs ++ rest) = cs ++ expand defines rest := by
  induction cs with
  | nil => rfl
  | cons c cs ih =>
    have hnext : c = '$' → (cs ++ rest).head? ≠ some '{' := by
      rintro rfl hhead
      cases cs with
      | nil => exact hrest hhead
      | cons d cs =>
        rw [List.cons_append, List.head?_cons, Option.some.injEq] at hhead
        exact h ⟨[], cs, by simp [hhead]⟩
    have hrest' : ¬ ['$', '{'] <:+: cs := fun hcs ↦ h (hcs.trans (List.suffix_cons c cs).isInfix)
    rw [List.cons_append, expand_cons hnext, ih hrest', List.cons_append]

/-! ## Tidy texts -/

/-- The text up to the closing quote of a string. Behind a backslash no character closes it. -/
def inQuotes (quote : Char) : List Char → List Char
  | [] => []
  | [c] => if c = quote then [] else [c]
  | c :: d :: rest =>
    if c = quote then []
    else if c = '\\' then c :: d :: inQuotes quote rest
    else c :: inQuotes quote (d :: rest)

/-- No placeholder opens in a string, and no body of a placeholder has blanks at its ends. -/
def Tidy : List Char → Prop
  | [] => True
  | '$' :: '{' :: rest =>
    match h : splitBody? rest with
    | none => True
    | some (body, after) =>
      have := length_of_splitBody? h
      trim body = body ∧ Tidy after
  | c :: rest =>
    have := length_afterQuote_le c rest
    if c = '\'' || c = '"' then ¬ ['$', '{'] <:+: inQuotes c rest ∧ Tidy (afterQuote c rest)
    else Tidy rest
termination_by s => s.length

theorem tidy_cons_of_neutral (h : Neutral c) : Tidy (c :: rest) ↔ Tidy rest := by
  rw [Tidy]
  · simp [h.2.1, h.2.2]
  · intro after hc
    exact absurd hc h.1

theorem tidy_append_of_neutral {cs : List Char} (h : ∀ c ∈ cs, Neutral c) :
    Tidy (cs ++ rest) ↔ Tidy rest := by
  induction cs with
  | nil => rfl
  | cons c cs ih =>
    rw [List.cons_append, tidy_cons_of_neutral (h c (by simp)), ih fun d hd ↦ h d (by simp [hd])]

/-- The body of a placeholder is tidy if it has no blanks at its ends. -/
theorem tidy_placeholder (h : ∀ c ∈ body, c ≠ '}') :
    Tidy ('$' :: '{' :: (body ++ '}' :: after)) ↔ trim body = body ∧ Tidy after := by
  rw [Tidy]
  split
  · rename_i hnone
    rw [splitBody?_append h] at hnone
    contradiction
  · rename_i hsome
    rw [splitBody?_append h, Option.some.injEq, Prod.mk.injEq] at hsome
    obtain ⟨rfl, rfl⟩ := hsome
    rfl

theorem tidy_quote {quote : Char} (h : quote = '\'' ∨ quote = '"') :
    Tidy (quote :: rest) ↔
      ¬ ['$', '{'] <:+: inQuotes quote rest ∧ Tidy (afterQuote quote rest) := by
  rw [Tidy]
  · rcases h with rfl | rfl <;> simp
  · intro after hquote
    rcases h with rfl | rfl <;> exact absurd hquote (by decide)

end MapStyle.Placeholder
