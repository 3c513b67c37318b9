import Mathlib.Data.List.Sort
import MapStyle.Proofs.Placeholder.Expansion

/-!
# Where defines are replaced

Two readers look for placeholders in a text. The scan for references passes over strings, and takes
what stands in a placeholder without the blanks around it; the replacement of defines does neither.
The places that they come upon differ where a placeholder opens in a string, and the names differ
where there are blanks. A text is sealed if no placeholder opens in a string and is closed: then the
places are the same.
-/

namespace MapStyle.Placeholder

open Text

variable {defines : Table String} {p q : Spot} {ps : List Spot} {s cs rest body after : List Char}

/-! ## Placeholders at their places -/

/-- The placeholders that the replacement of defines comes upon. -/
def found : List Char → List Spot
  | [] => []
  | '$' :: '{' :: rest =>
    match h : splitBody? rest with
    | none => []
    | some (body, after) =>
      have := length_of_splitBody? h
      ⟨body, after⟩ :: found after
  | _ :: rest => found rest
termination_by s => s.length

/-! ## Places in a text -/

/-- The placeholders stand in the text, one behind the other. -/
def Located : List Spot → List Char → Prop
  | [], _ => True
  | p :: ps, s => p.onward <:+ s ∧ Located ps p.after

namespace Located

theorem mono (h : Located ps s) (hs : s <:+ rest) : Located ps rest := by
  cases ps with
  | nil => trivial
  | cons p ps => exact ⟨h.1.trans hs, h.2⟩

theorem sublist {ps' : List Spot} (h : Located ps s) (hps : ps'.Sublist ps) : Located ps' s := by
  induction hps generalizing s with
  | slnil => trivial
  | cons p _ ih => exact (ih h.2).mono ((List.suffix_append p.text p.after).trans h.1)
  | cons_cons p _ ih => exact ⟨h.1, ih h.2⟩

theorem onward_suffix (h : Located ps s) (hp : p ∈ ps) : p.onward <:+ s :=
  (h.sublist (List.singleton_sublist.mpr hp)).1

/-- Each of the placeholders has less behind it than those before it have. -/
theorem pairwise (h : Located ps s) : ps.Pairwise fun p q ↦ q.after.length < p.after.length := by
  induction ps generalizing s with
  | nil => exact .nil
  | cons p ps ih =>
    refine List.pairwise_cons.mpr ⟨fun q hq ↦ ?_, ih h.2⟩
    exact q.length_after_lt.trans_le (h.2.onward_suffix hq).length_le

/-- The places give the order, so that only the members count. -/
theorem eq_of_mem_iff {ps' : List Spot} (h : Located ps s) (h' : Located ps' s)
    (hmem : ∀ p, p ∈ ps ↔ p ∈ ps') : ps = ps' :=
  have : Std.Irrefl fun p q : Spot ↦ q.after.length < p.after.length :=
    ⟨fun _ ↦ Nat.lt_irrefl _⟩
  h.pairwise.eq_of_mem_iff h'.pairwise hmem

end Located

theorem onward_suffix_of_splitBody? (hs : splitBody? rest = some (body, after)) :
    (Spot.mk body after).onward <:+ '$' :: '{' :: rest := by
  have honward : (Spot.mk body after).onward = '$' :: '{' :: rest := by
    rw [Spot.onward_mk, ← (eq_append_of_splitBody? hs).1]
  exact honward ▸ List.suffix_rfl

theorem afterQuote_suffix (quote : Char) (s : List Char) : afterQuote quote s <:+ s := by
  fun_induction afterQuote quote s with
  | case1 | case2 => exact List.nil_suffix
  | case3 d rest => exact List.suffix_cons _ _
  | case4 d rest _ ih => exact ih.trans ((List.suffix_cons d rest).trans (List.suffix_cons _ _))
  | case5 c d rest _ _ ih => exact ih.trans (List.suffix_cons c _)

theorem located_found (s : List Char) : Located (found s) s := by
  fun_induction found s with
  | case1 | case2 => trivial
  | case3 rest body after hsome _ ih => exact ⟨onward_suffix_of_splitBody? hsome, ih⟩
  | case4 c rest _ ih => exact ih.mono (List.suffix_cons c rest)

theorem located_listed (s : List Char) : Located (listed s) s := by
  fun_induction listed s with
  | case1 | case2 => trivial
  | case3 rest body after hsome _ ih => exact ⟨onward_suffix_of_splitBody? hsome, ih⟩
  | case4 c rest _ _ _ ih =>
    exact ih.mono ((afterQuote_suffix c rest).trans (List.suffix_cons c rest))
  | case5 c rest _ _ _ ih => exact ih.mono (List.suffix_cons c rest)

/-! ## Replacing placeholders at their places -/

/-- The text with a text in place of each of some placeholders. -/
def replaceAt : List (Spot × List Char) → List Char → List Char
  | [], s => s
  | (p, t) :: ps, s => s.take (s.length - p.onward.length) ++ (t ++ replaceAt ps p.after)

theorem replaceAt_cons (pre t : List Char) (ps : List (Spot × List Char)) :
    replaceAt ((p, t) :: ps) (pre ++ p.onward) = pre ++ (t ++ replaceAt ps p.after) := by
  simp [replaceAt]

/-- What stands in front of all placeholders stays. -/
theorem replaceAt_append {ps : List (Spot × List Char)} (h : Located (ps.map Prod.fst) s)
    (cs : List Char) : replaceAt ps (cs ++ s) = cs ++ replaceAt ps s := by
  match ps, h with
  | [], _ => rfl
  | (p, t) :: ps, h =>
    obtain ⟨pre, rfl⟩ := h.1
    rw [← List.append_assoc, replaceAt_cons, replaceAt_cons, List.append_assoc]

theorem replaceAt_map_append (h : Located ps s) (f : Spot → List Char) (cs : List Char) :
    replaceAt (ps.map fun p ↦ (p, f p)) (cs ++ s)
      = cs ++ replaceAt (ps.map fun p ↦ (p, f p)) s :=
  replaceAt_append (by simpa [Function.comp_def] using h) cs

/-- The placeholders for which there is a text to replace them, with these texts. -/
def chosen (f : Spot → Option (List Char)) (ps : List Spot) : List (Spot × List Char) :=
  ps.filterMap fun p ↦ (f p).map (p, ·)

theorem mem_chosen {f : Spot → Option (List Char)} {t : List Char} :
    (p, t) ∈ chosen f ps ↔ p ∈ ps ∧ f p = some t := by
  simp only [chosen, List.mem_filterMap, Option.map_eq_some_iff, Prod.mk.injEq]
  grind

theorem map_fst_chosen (f : Spot → Option (List Char)) (ps : List Spot) :
    (chosen f ps).map Prod.fst = ps.filter fun p ↦ (f p).isSome := by
  induction ps with
  | nil => rfl
  | cons p ps ih => cases hp : f p <;> simp_all [chosen]

theorem Located.chosen (h : Located ps s) (f : Spot → Option (List Char)) :
    Located ((chosen f ps).map Prod.fst) s :=
  map_fst_chosen f ps ▸ h.sublist List.filter_sublist

/-- A placeholder that its own text is put in place of may be left out. -/
theorem replaceAt_map_getD (f : Spot → Option (List Char)) (h : Located ps s) :
    replaceAt (ps.map fun p ↦ (p, (f p).getD p.text)) s = replaceAt (chosen f ps) s := by
  induction ps generalizing s with
  | nil => rfl
  | cons p ps ih =>
    obtain ⟨⟨pre, rfl⟩, hps⟩ := h
    rw [List.map_cons, replaceAt_cons, ih hps]
    cases hp : f p with
    | some t =>
      have hcons : chosen f (p :: ps) = (p, t) :: chosen f ps := by simp [chosen, hp]
      rw [hcons, replaceAt_cons, Option.getD_some]
    | none =>
      have hcons : chosen f (p :: ps) = chosen f ps := by simp [chosen, hp]
      rw [hcons, Spot.onward, ← List.append_assoc pre p.text p.after,
        replaceAt_append (hps.chosen f), List.append_assoc, Option.getD_none]

/-! ## Replacing defines -/

/-- The text of a define in parentheses. -/
def inParens (text : String) : List Char := '(' :: text.toList ++ [')']

theorem inParens_injective {text text' : String} (h : inParens text = inParens text') :
    text = text' := by
  simpa [inParens, String.toList_inj] using h

/-- The placeholders that the replacement of defines replaces, with the texts that it puts there. -/
def substituted (defines : Table String) (s : List Char) : List (Spot × List Char) :=
  chosen (fun p ↦ (Table.get? defines (String.ofList p.body)).map inParens) (found s)

/-- The references that are named for a define, with the texts that belong there. -/
def due (defines : Table String) (s : List Char) : List (Spot × List Char) :=
  chosen (fun p ↦ (Table.get? defines (String.ofList p.label)).map inParens) (listed s)

theorem expansion_eq_getD (defines : Table String) (p : Spot) : expansion defines p.body
    = ((Table.get? defines (String.ofList p.body)).map inParens).getD p.text := by
  rw [expansion]
  cases Table.get? defines (String.ofList p.body) <;> rfl

/-- The replacement of defines replaces the placeholders that it comes upon and finds a define for,
and leaves all else as it is. -/
theorem expand_eq_replaceAt (defines : Table String) (s : List Char) :
    expand defines s = replaceAt (substituted defines s) s := by
  rw [substituted, ← replaceAt_map_getD _ (located_found s)]
  simp only [← expansion_eq_getD]
  fun_induction found s with
  | case1 => rw [expand]; rfl
  | case2 rest hnone =>
    rw [expand]
    split
    · rfl
    · simp_all
  | case3 rest body after hsome _ ih =>
    obtain ⟨rfl, hbody⟩ := eq_append_of_splitBody? hsome
    rw [expand_placeholder hbody, ih, List.map_cons, ← Spot.onward_mk]
    exact (replaceAt_cons (p := ⟨body, after⟩) [] _ _).symm
  | case4 c rest hopening ih =>
    rw [expand, ih]
    · exact (replaceAt_map_append (located_found rest) _ [c]).symm
    · exact hopening

/-! ## Seeing the references -/

/-- What keeps the replacement of defines to the references: what it comes upon elsewhere, and the
references that it does not come upon, are named for no define, and blanks make no difference to
which define the others are named for. -/
structure SeesReferences (defines : Table String) (s : List Char) : Prop where
  elsewhere : ∀ p ∈ found s, p ∉ listed s → Table.get? defines (String.ofList p.body) = none
  missed : ∀ p ∈ listed s, p ∉ found s → Table.get? defines (String.ofList p.label) = none
  blanks : ∀ p ∈ found s, p ∈ listed s →
    Table.get? defines (String.ofList p.body) = Table.get? defines (String.ofList p.label)

theorem mem_substituted {t : List Char} : (p, t) ∈ substituted defines s ↔
    p ∈ found s ∧ ∃ text, Table.get? defines (String.ofList p.body) = some text ∧
      inParens text = t := by
  rw [substituted, mem_chosen, Option.map_eq_some_iff]

theorem mem_due {t : List Char} : (p, t) ∈ due defines s ↔
    p ∈ listed s ∧ ∃ text, Table.get? defines (String.ofList p.label) = some text ∧
      inParens text = t := by
  rw [due, mem_chosen, Option.map_eq_some_iff]

theorem pairwise_chosen (h : Located ps s) (f : Spot → Option (List Char)) :
    (chosen f ps).Pairwise fun x y ↦ y.1.after.length < x.1.after.length :=
  List.pairwise_map.mp (h.chosen f).pairwise

/-- The placeholders that are replaced are the references that are named for a define, just where
the replacement of defines sees the references. -/
theorem substituted_eq_due_iff : substituted defines s = due defines s ↔
    SeesReferences defines s := by
  constructor
  · intro h
    have hiff : ∀ p t, (p, t) ∈ substituted defines s ↔ (p, t) ∈ due defines s := by simp [h]
    simp only [mem_substituted, mem_due] at hiff
    refine ⟨fun p hp hlisted ↦ ?_, fun p hp hfound ↦ ?_, fun p hp hlisted ↦ ?_⟩
    · by_contra hne
      obtain ⟨text, htext⟩ := Option.ne_none_iff_exists'.mp hne
      exact hlisted ((hiff p _).mp ⟨hp, text, htext, rfl⟩).1
    · by_contra hne
      obtain ⟨text, htext⟩ := Option.ne_none_iff_exists'.mp hne
      exact hfound ((hiff p _).mpr ⟨hp, text, htext, rfl⟩).1
    · ext text
      constructor
      · intro htext
        obtain ⟨-, text', htext', heq⟩ := (hiff p _).mp ⟨hp, text, htext, rfl⟩
        rwa [← inParens_injective heq]
      · intro htext
        obtain ⟨-, text', htext', heq⟩ := (hiff p _).mpr ⟨hlisted, text, htext, rfl⟩
        rwa [← inParens_injective heq]
  · intro h
    -- Both lists are in the order of the places, so that they need only have the same members.
    have : Std.Irrefl fun x y : Spot × List Char ↦ y.1.after.length < x.1.after.length :=
      ⟨fun _ ↦ Nat.lt_irrefl _⟩
    refine (pairwise_chosen (located_found s) _).eq_of_mem_iff
      (pairwise_chosen (located_listed s) _) fun ⟨p, t⟩ ↦ ?_
    change _ ∈ substituted defines s ↔ _ ∈ due defines s
    rw [mem_substituted, mem_due]
    by_cases hfound : p ∈ found s <;> by_cases hlisted : p ∈ listed s
    · simp [hfound, hlisted, h.blanks p hfound hlisted]
    · simp [hlisted, h.elsewhere p hfound hlisted]
    · simp [hfound, h.missed p hlisted hfound]
    · simp [hfound, hlisted]

/-! ## Texts in which nothing is mistaken -/

/-- No placeholder opens in a string and is closed by a brace, wherever the brace stands. -/
def Sealed : List Char → Prop
  | [] => True
  | '$' :: '{' :: rest =>
    match h : splitBody? rest with
    | none => True
    | some (_, after) =>
      have := length_of_splitBody? h
      Sealed after
  | c :: rest =>
    have := length_afterQuote_le c rest
    if c = '\'' || c = '"' then
      (∀ u, '$' :: '{' :: u <:+ rest → (afterQuote c rest).length < u.length + 2 → '}' ∉ u) ∧
        Sealed (afterQuote c rest)
    else Sealed rest
termination_by s => s.length

theorem found_eq_nil (h : '}' ∉ s) : found s = [] := by
  fun_induction found s with
  | case1 | case2 => rfl
  | case3 rest body after hsome _ _ =>
    have hnone := splitBody?_eq_none_iff.mpr fun hmem : '}' ∈ rest ↦ h (by simp [hmem])
    rw [hsome] at hnone
    contradiction
  | case4 c rest _ ih => exact ih fun hmem ↦ h (List.mem_cons_of_mem c hmem)

/-- Where no placeholder that is closed opens in front of some end of a text, what is found stands
in that end. -/
theorem found_eq_of_suffix (hrest : rest <:+ s)
    (h : ∀ u, '$' :: '{' :: u <:+ s → rest.length < u.length + 2 → '}' ∉ u) :
    found s = found rest := by
  induction s with
  | nil => rw [List.suffix_nil.mp hrest]
  | cons c s ih =>
    rcases List.suffix_cons_iff.mp hrest with rfl | hsuffix
    · rfl
    · by_cases hopening : ∃ u, c = '$' ∧ s = '{' :: u
      · obtain ⟨u, rfl, rfl⟩ := hopening
        have hbrace : '}' ∉ '$' :: '{' :: u := by
          simpa using h u List.suffix_rfl (Nat.lt_succ_of_le hsuffix.length_le)
        rw [found_eq_nil hbrace, found_eq_nil fun hmem ↦ hbrace (hrest.subset hmem)]
      · have hcons : found (c :: s) = found s := by
          rw [found]
          exact fun u hc hs ↦ hopening ⟨u, hc, hs⟩
        rw [hcons, ih hsuffix fun u hu hlength ↦ h u (hu.trans (List.suffix_cons c s)) hlength]

/-- Where a placeholder that is closed opens, one is found there or before. -/
theorem exists_found {u : List Char} (hu : '$' :: '{' :: u <:+ s) (hbrace : '}' ∈ u) :
    ∃ p ∈ found s, u.length + 2 ≤ p.onward.length := by
  fun_induction found s with
  | case1 => simp at hu
  | case2 rest hnone =>
    have hmem : '}' ∈ '$' :: '{' :: rest := hu.subset (by simp [hbrace])
    exact absurd (by simpa using hmem) (splitBody?_eq_none_iff.mp hnone)
  | case3 rest body after hsome _ _ =>
    refine ⟨_, List.mem_cons_self, ?_⟩
    rw [Spot.onward_mk, ← (eq_append_of_splitBody? hsome).1]
    exact hu.length_le
  | case4 c rest hopening ih =>
    rcases List.suffix_cons_iff.mp hu with heq | hu
    · cases heq
      exact (hopening u rfl rfl).elim
    · exact ih hu

/-- The search comes upon the references and nothing else where no string holds the opening of a
placeholder that is closed. -/
theorem found_eq_listed_iff : found s = listed s ↔ Sealed s := by
  fun_induction listed s with
  | case1 => simp [found, Sealed]
  | case2 rest hnone =>
    rw [found, Sealed]
    split <;> simp_all
  | case3 rest body after hsome _ ih =>
    rw [found, Sealed]
    split <;> simp_all
  | case4 c rest hopening _ hquote ih =>
    have hfound : found (c :: rest) = found rest := by
      rw [found]
      exact hopening
    rw [Sealed, if_pos hquote, hfound, ← ih]
    · constructor
      · intro heq
        have hopens : ∀ u, '$' :: '{' :: u <:+ rest → (afterQuote c rest).length < u.length + 2 →
            '}' ∉ u := by
          intro u hu hlength hbrace
          obtain ⟨p, hp, hle⟩ := exists_found hu hbrace
          have hshort := ((located_listed _).onward_suffix (heq ▸ hp)).length_le
          omega
        exact ⟨hopens, (found_eq_of_suffix (afterQuote_suffix c rest) hopens).symm.trans heq⟩
      · rintro ⟨hopens, heq⟩
        rw [found_eq_of_suffix (afterQuote_suffix c rest) hopens, heq]
    · exact hopening
  | case5 c rest hopening _ hquote ih =>
    rw [found, Sealed, if_neg hquote, ih]
    · exact hopening
    · exact hopening

/-- Whatever is defined, the replacement of defines sees the references of a text just where no
string holds the opening of a placeholder that is closed, and no reference has blanks at its
ends. -/
theorem forall_seesReferences_iff : (∀ defines, SeesReferences defines s) ↔
    Sealed s ∧ ∀ p ∈ listed s, p.label = p.body := by
  have hdefined (name : List Char) :
      Table.get? [(String.ofList name, "")] (String.ofList name) = some "" :=
    if_pos rfl
  rw [← found_eq_listed_iff]
  constructor
  · intro h
    have hlisted : ∀ p ∈ found s, p ∈ listed s := fun p hp ↦ by
      by_contra hnot
      have hnone := (h [(String.ofList p.body, "")]).elsewhere p hp hnot
      rw [hdefined] at hnone
      contradiction
    have hfound : ∀ p ∈ listed s, p ∈ found s := fun p hp ↦ by
      by_contra hnot
      have hnone := (h [(String.ofList p.label, "")]).missed p hp hnot
      rw [hdefined] at hnone
      contradiction
    refine ⟨(located_found s).eq_of_mem_iff (located_listed s) fun p ↦ ⟨hlisted p, hfound p⟩,
      fun p hp ↦ ?_⟩
    have hsame := (h [(String.ofList p.body, "")]).blanks p (hfound p hp) hp
    rw [hdefined, Table.get?] at hsame
    split at hsame
    · rename_i heq
      exact (String.ofList_injective heq).symm
    · contradiction
  · rintro ⟨heq, hlabel⟩ defines
    exact ⟨fun p hp hnot ↦ absurd (heq ▸ hp) hnot, fun p hp hnot ↦ absurd (heq ▸ hp) hnot,
      fun p _ hp ↦ by rw [hlabel p hp]⟩

/-! ## References along a text -/

section Respelling

variable {f : Spot → List Char}

/-- The text with each of its references written in another way, which may depend on the place. -/
def respell (f : Spot → List Char) (s : List Char) : List Char :=
  replaceAt ((listed s).map fun p ↦ (p, f p)) s

theorem respell_append (h : listed (cs ++ rest) = listed rest) :
    respell f (cs ++ rest) = cs ++ respell f rest := by
  rw [respell, h]
  exact replaceAt_map_append (located_listed rest) f cs

theorem respell_placeholder (h : ∀ c ∈ body, c ≠ '}') (rest : List Char) :
    respell f ('$' :: '{' :: (body ++ '}' :: rest)) = f ⟨body, rest⟩ ++ respell f rest := by
  rw [respell, listed_placeholder h, List.map_cons, ← Spot.onward_mk]
  exact replaceAt_cons (p := ⟨body, rest⟩) [] _ _

/-- A reference with blanks added inside its braces. -/
def pad (before behind : Spot → List Char) (p : Spot) : List Char :=
  '$' :: '{' :: (before p ++ (p.body ++ behind p) ++ ['}'])

/-- A reference as it has to be written once the defines are replaced. -/
def dueText (defines : Table String) (p : Spot) : List Char :=
  ((Table.get? defines (String.ofList p.label)).map inParens).getD p.text

theorem respell_dueText (defines : Table String) (s : List Char) :
    respell (dueText defines) s = replaceAt (due defines s) s :=
  replaceAt_map_getD _ (located_listed s)

end Respelling

end MapStyle.Placeholder
