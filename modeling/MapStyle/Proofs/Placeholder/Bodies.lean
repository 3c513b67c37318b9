import Mathlib.Data.List.DropRight
import MapStyle.Placeholder.Reference

/-!
# The scan for placeholders

The scan of a text for placeholders passes over every character but the dollar sign and the two
quotes. It takes a placeholder as a whole, and leaves a string where the string is closed. What it
comes upon it lists without the blanks, and trimming the body of a placeholder twice is trimming it
once.
-/

namespace MapStyle.Placeholder

open Text

/-! ## Trimming -/

theorem trim_eq_rdropWhile (s : List Char) :
    trim s = (s.dropWhile isBlank).rdropWhile isBlank := rfl

/-- A trimmed text does not begin with a blank. -/
theorem not_isBlank_head_trim {s rest : List Char} {c : Char} (h : trim s = c :: rest) :
    isBlank c = false := by
  have hprefix : trim s <+: s.dropWhile isBlank := by
    rw [trim_eq_rdropWhile]
    exact List.rdropWhile_prefix isBlank _
  obtain ⟨after, hafter⟩ := hprefix
  rw [h, List.cons_append] at hafter
  have hhead := List.head?_dropWhile_not isBlank s
  rwa [← hafter, List.head?_cons] at hhead

@[simp] theorem trim_trim (s : List Char) : trim (trim s) = trim s := by
  have hfront : (trim s).dropWhile isBlank = trim s := by
    cases h : trim s with
    | nil => rfl
    | cons c rest => simp [not_isBlank_head_trim h]
  rw [trim_eq_rdropWhile (trim s), hfront, trim_eq_rdropWhile, List.rdropWhile_idempotent]

/-- A text without blanks is trimmed. -/
theorem trim_of_forall_not_isBlank {s : List Char} (h : ∀ c ∈ s, isBlank c = false) :
    trim s = s := by
  have hfront : s.dropWhile isBlank = s := by
    cases s with
    | nil => rfl
    | cons c s => simp [h c]
  rw [trim_eq_rdropWhile, hfront, List.rdropWhile_eq_self_iff]
  intro hne
  simp [h _ (List.getLast_mem hne)]

/-- Blanks at the ends make no difference to a trimmed text. -/
theorem trim_append_of_isBlank {b b' : List Char} (hb : ∀ c ∈ b, isBlank c = true)
    (hb' : ∀ c ∈ b', isBlank c = true) (s : List Char) : trim (b ++ (s ++ b')) = trim s := by
  have hbehind (s : List Char) : (s ++ b').rdropWhile isBlank = s.rdropWhile isBlank := by
    rw [List.rdropWhile, List.reverse_append, List.dropWhile_append_of_pos (by simpa using hb')]
    rfl
  rw [trim_eq_rdropWhile, trim_eq_rdropWhile, List.dropWhile_append_of_pos hb,
    List.dropWhile_append]
  split
  · rename_i hs
    rw [List.isEmpty_iff.mp hs, List.dropWhile_eq_nil_iff.mpr hb']
  · exact hbehind _

/-! ## Characters outside placeholders and strings -/

/-- A character at which the scan neither enters a placeholder nor a string. -/
def Neutral (c : Char) : Prop := c ≠ '$' ∧ c ≠ '\'' ∧ c ≠ '"'

instance : DecidablePred Neutral := fun _ ↦ inferInstanceAs (Decidable (_ ∧ _))

/-! ## The body of a placeholder -/

theorem splitBody?_append {body : List Char} (h : ∀ c ∈ body, c ≠ '}') (after : List Char) :
    splitBody? (body ++ '}' :: after) = some (body, after) := by
  have hbody : ∀ c ∈ body, (c != '}') = true := fun c hc ↦ bne_iff_ne.mpr (h c hc)
  simp [splitBody?, List.dropWhile_append_of_pos hbody, List.takeWhile_append_of_pos hbody]

/-- The body ends at the first closing brace. -/
theorem eq_append_of_splitBody? {s body after : List Char}
    (h : splitBody? s = some (body, after)) :
    s = body ++ '}' :: after ∧ ∀ c ∈ body, c ≠ '}' := by
  unfold splitBody? at h
  split at h
  · contradiction
  · rename_i c _ hdrop
    cases h
    obtain rfl : c = '}' := by
      have hhead := List.head?_dropWhile_not (· != '}') s
      rw [hdrop] at hhead
      simpa using hhead
    refine ⟨?_, fun d hd ↦ bne_iff_ne.mp (List.mem_takeWhile_imp (p := (· != '}')) hd)⟩
    rw [← hdrop, List.takeWhile_append_dropWhile]

/-- Only where no brace closes is there no body. -/
theorem splitBody?_eq_none_iff {s : List Char} : splitBody? s = none ↔ '}' ∉ s := by
  constructor
  · intro hnone hmem
    obtain ⟨body, after, rfl, hbody⟩ := List.eq_append_cons_of_mem hmem
    rw [splitBody?_append fun c hc ↦ ne_of_mem_of_not_mem hc hbody] at hnone
    contradiction
  · intro hnot
    by_contra hne
    obtain ⟨⟨body, after⟩, hsome⟩ := Option.ne_none_iff_exists'.mp hne
    rw [(eq_append_of_splitBody? hsome).1] at hnot
    simp at hnot

/-! ## Placeholders at their places -/

/-- A placeholder at its place in a text. -/
structure Spot where
  /-- What stands between the braces. -/
  body : List Char
  /-- What stands behind the placeholder. -/
  after : List Char
  deriving DecidableEq

namespace Spot

/-- The text of the placeholder. -/
def text (p : Spot) : List Char := '$' :: '{' :: (p.body ++ ['}'])

/-- The text from the placeholder on. -/
def onward (p : Spot) : List Char := p.text ++ p.after

/-- What stands between the braces without the blanks around it. -/
def label (p : Spot) : List Char := trim p.body

theorem onward_mk (body after : List Char) :
    (mk body after).onward = '$' :: '{' :: (body ++ '}' :: after) := by
  simp [onward, text]

theorem length_after_lt (p : Spot) : p.after.length < p.onward.length := by
  simp only [onward, text, List.cons_append, List.length_cons, List.length_append]
  omega

end Spot

/-- The placeholders that the scan for references comes upon: those outside strings. -/
def listed : List Char → List Spot
  | [] => []
  | '$' :: '{' :: rest =>
    match h : splitBody? rest with
    | none => []
    | some (body, after) =>
      have := length_of_splitBody? h
      ⟨body, after⟩ :: listed after
  | c :: rest =>
    have := length_afterQuote_le c rest
    if c = '\'' || c = '"' then listed (afterQuote c rest) else listed rest
termination_by s => s.length

theorem listed_cons_of_neutral {c : Char} (h : Neutral c) (s : List Char) :
    listed (c :: s) = listed s := by
  obtain ⟨hdollar, hsingle, hdouble⟩ := h
  rw [listed, if_neg (by simp [hsingle, hdouble])]
  exact fun _ hc ↦ absurd hc hdollar

theorem listed_append_of_neutral {cs : List Char} (h : ∀ c ∈ cs, Neutral c) (s : List Char) :
    listed (cs ++ s) = listed s := by
  induction cs with
  | nil => rfl
  | cons c cs ih =>
    rw [List.cons_append, listed_cons_of_neutral (h c (by simp)), ih fun d hd ↦ h d (by simp [hd])]

/-- A placeholder is a spot, and the scan goes on behind it. -/
theorem listed_placeholder {body : List Char} (h : ∀ c ∈ body, c ≠ '}') (rest : List Char) :
    listed ('$' :: '{' :: (body ++ '}' :: rest)) = ⟨body, rest⟩ :: listed rest := by
  rw [listed]
  split
  · rename_i hnone
    rw [splitBody?_append h] at hnone
    contradiction
  · rename_i hsome
    rw [splitBody?_append h, Option.some.injEq, Prod.mk.injEq] at hsome
    obtain ⟨rfl, rfl⟩ := hsome
    rfl

theorem listed_quote {quote : Char} (h : quote = '\'' ∨ quote = '"') (rest : List Char) :
    listed (quote :: rest) = listed (afterQuote quote rest) := by
  rw [listed]
  · rcases h with rfl | rfl <;> simp
  · intro after hquote
    rcases h with rfl | rfl <;> exact absurd hquote (by decide)

/-! ## The bodies along a text -/

/-- The scan for references lists what it comes upon without the blanks. -/
theorem bodies_eq_map_label (s : List Char) : bodies s = (listed s).map Spot.label := by
  fun_induction listed s with
  | case1 => rw [bodies, List.map_nil]
  | case2 rest hnone =>
    rw [bodies]
    split <;> simp_all
  | case3 rest body after hsome _ ih =>
    rw [bodies]
    split <;> simp_all [Spot.label]
  | case4 c rest hopening _ hquote ih =>
    rw [bodies, if_pos hquote, ih]
    exact hopening
  | case5 c rest hopening _ hquote ih =>
    rw [bodies, if_neg hquote, ih]
    exact hopening

theorem bodies_append_of_neutral {cs : List Char} (h : ∀ c ∈ cs, Neutral c) (s : List Char) :
    bodies (cs ++ s) = bodies s := by
  simp only [bodies_eq_map_label, listed_append_of_neutral h]

theorem bodies_dropWhile {p : Char → Bool} (h : ∀ c, p c = true → Neutral c) (s : List Char) :
    bodies (s.dropWhile p) = bodies s := by
  conv_rhs => rw [← List.takeWhile_append_dropWhile (p := p) (l := s)]
  exact (bodies_append_of_neutral (fun c hc ↦ h c (List.mem_takeWhile_imp hc)) _).symm

theorem bodies_placeholder {body : List Char} (h : ∀ c ∈ body, c ≠ '}') (after : List Char) :
    bodies ('$' :: '{' :: (body ++ '}' :: after)) = trim body :: bodies after := by
  simp only [bodies_eq_map_label, listed_placeholder h, List.map_cons, Spot.label]

theorem bodies_quote {quote : Char} (h : quote = '\'' ∨ quote = '"') (s : List Char) :
    bodies (quote :: s) = bodies (afterQuote quote s) := by
  simp only [bodies_eq_map_label, listed_quote h]

end MapStyle.Placeholder
