import MapStyle.Proofs.Expr.Grammar
import MapStyle.Proofs.Expr.Phrase

/-!
# Tokens of expressions

The readers of numbers, strings and names read exactly the texts that the grammar admits. A run of
digits, or of the characters of a name, is read as far as it goes, so a number and a name are read
where what stands behind them cannot go on with them.
-/

namespace MapStyle.Expr.Parser

open Text Reader

variable {c : Char} {rest s : List Char}

/-! ## Numbers -/

theorem isNamePart_of_isDigit (h : c.isDigit = true) : isNamePart c = true := by
  have hlt : c.toNat < 0x80 := Nat.lt_of_le_of_lt (Char.isDigit_iff_toNat.mp h).2 (by decide)
  simp [isNamePart, isLetterOrNumber, isNumber, hlt, h]

theorem stops_isDigit (h : Stops isNamePart rest) : Stops Char.isDigit rest := by
  intro c hc
  by_contra hdigit
  have hpart : isNamePart c = true := isNamePart_of_isDigit (by simpa using hdigit)
  rw [h c hc] at hpart
  contradiction

theorem digits_append {ds : List Char} (h : ∀ c ∈ ds, c.isDigit = true) (hne : ds ≠ [])
    (hrest : Stops Char.isDigit rest) : digits (ds ++ rest) = .ok ds rest :=
  run1_append h hne hrest

theorem digits_miss (h : Stops Char.isDigit s) : digits s = .miss := run1_miss h

/-- The letters that an exponent begins with. -/
def isMark (c : Char) : Bool := c = 'e' || c = 'E'

theorem stops_isMark (h : Stops isNamePart rest) : Stops isMark rest := by
  intro c hc
  by_contra hmark
  have hpart : isNamePart c = true := by
    simp only [isMark, Bool.not_eq_false, Bool.or_eq_true, decide_eq_true_eq] at hmark
    rcases hmark with rfl | rfl <;> rfl
  rw [h c hc] at hpart
  contradiction

/-- An exponent is read up to the last of its digits. -/
theorem scale_append (x : Exponent) (h : Stops Char.isDigit rest) :
    scale (x.text ++ rest) = .ok x.power rest := by
  have hmark : satisfy (fun c ↦ c = 'e' || c = 'E')
      (x.mark :: (x.sign.toList ++ (x.digits ++ rest)))
      = .ok x.mark (x.sign.toList ++ (x.digits ++ rest)) :=
    satisfy_cons (by simpa using x.mark_eq) _
  have hdigits : digits (x.digits ++ rest) = .ok x.digits rest :=
    digits_append x.isDigit_digits x.digits_ne h
  have hsign : optional (satisfy fun c ↦ c = '+' || c = '-') (x.sign.toList ++ (x.digits ++ rest))
      = .ok x.sign (x.digits ++ rest) := by
    cases hx : x.sign with
    | some c =>
      refine optional_of_ok (satisfy_cons ?_ _)
      rcases x.sign_eq c hx with rfl | rfl <;> rfl
    | none =>
      refine optional_of_miss (satisfy_miss ?_)
      intro c hc
      obtain ⟨d, ds, hds⟩ := List.exists_cons_of_ne_nil x.digits_ne
      rw [hds] at hc
      cases hc
      have hd := x.isDigit_digits c (by simp [hds])
      by_contra hsign
      simp only [Bool.not_eq_false, Bool.or_eq_true, decide_eq_true_eq] at hsign
      rcases hsign with rfl | rfl <;> contradiction
  rw [scale, Exponent.text, List.cons_append, List.append_assoc,
    bind_of_ok hmark, bind_of_ok hsign, bind_of_ok hdigits]
  rfl

/-- What is read as an exponent is one. -/
theorem exponent_of_scale {power : Int} (h : scale s = .ok power rest) :
    ∃ x : Exponent, s = x.text ++ rest ∧ x.power = power := by
  simp only [scale, bind_eq_ok] at h
  obtain ⟨mark, s₁, hmark, sign, s₂, hsign, ds, s₃, hds, hyield⟩ := h
  obtain ⟨rfl, hletter⟩ := satisfy_eq_ok hmark
  obtain ⟨rfl, hdigits, hne, -⟩ := run1_eq_ok hds
  cases hyield
  have hletter : mark = 'e' ∨ mark = 'E' := by simpa using hletter
  rcases optional_eq_ok hsign with ⟨c, rfl, hc⟩ | ⟨rfl, rfl, -⟩
  · obtain ⟨rfl, hsigned⟩ := satisfy_eq_ok hc
    have hsigned : c = '+' ∨ c = '-' := by simpa using hsigned
    exact ⟨⟨mark, some c, ds, hletter, by simpa using hsigned, hne, hdigits⟩,
      by simp [Exponent.text], rfl⟩
  · exact ⟨⟨mark, none, ds, hletter, by simp, hne, hdigits⟩, by simp [Exponent.text], rfl⟩

/-- What stands behind the digits of a numeral does not begin with a character that neither an
exponent nor the text behind the numeral begins with. -/
theorem stops_exponentText (n : Numeral) {accept : Char → Bool}
    (hmark : ∀ c, isMark c = true → accept c = false)
    (hrest : n.exponent = none → Stops accept rest) : Stops accept (n.exponentText ++ rest) := by
  cases hx : n.exponent with
  | none => simpa [Numeral.exponentText, hx] using hrest hx
  | some x =>
    intro c hc
    have hc : x.mark = c := by simpa [Numeral.exponentText, hx, Exponent.text] using hc
    apply hmark
    rw [← hc]
    rcases x.mark_eq with hm | hm <;> simp [isMark, hm]

theorem not_isDigit_of_isMark (c : Char) (h : isMark c = true) : c.isDigit = false := by
  simp only [isMark, Bool.or_eq_true, decide_eq_true_eq] at h
  rcases h with rfl | rfl <;> rfl

theorem optional_scale_append (n : Numeral) (hrest : Stops isNamePart rest) :
    optional scale (n.exponentText ++ rest) = .ok (n.exponent.map Exponent.power) rest := by
  unfold Numeral.exponentText
  cases n.exponent with
  | none => exact optional_of_miss (bind_of_miss (satisfy_miss (stops_isMark hrest)))
  | some x => exact optional_of_ok (scale_append x (stops_isDigit hrest))

/-- The digits of a numeral are read up to its exponent, where no point behind the numeral goes on
with them. -/
theorem mantissa_append (n : Numeral) (hrest : Stops isNamePart rest)
    (hpoint : n.fraction = none → n.exponent = none → rest.head? ≠ some '.') :
    mantissa (n.whole ++ (n.fractionText ++ (n.exponentText ++ rest)))
      = .ok (n.whole, n.fraction.getD []) (n.exponentText ++ rest) := by
  have htail : Stops Char.isDigit (n.exponentText ++ rest) :=
    stops_exponentText n not_isDigit_of_isMark fun _ ↦ stops_isDigit hrest
  cases hfraction : n.fraction with
  | some fraction =>
    have hdigits : ∀ c ∈ fraction, c.isDigit = true := n.isDigit_fraction fraction hfraction
    have hstops : Stops Char.isDigit ('.' :: (fraction ++ (n.exponentText ++ rest))) := by
      intro c hc
      cases hc
      rfl
    simp only [Numeral.fractionText, hfraction, Option.elim_some, List.cons_append]
    by_cases hwhole : n.whole = []
    · have hfractionNe : fraction ≠ [] := by simpa [hwhole, hfraction] using n.digits_ne
      rw [hwhole, List.nil_append, mantissa, orElse_of_miss (bind_of_miss (digits_miss hstops)),
        bind_of_ok (char_cons '.' _), bind_of_ok (digits_append hdigits hfractionNe htail)]
      rfl
    · apply orElse_of_ok
      rw [bind_of_ok (digits_append n.isDigit_whole hwhole hstops)]
      refine bind_of_ok (optional_of_ok ?_)
      rw [bind_of_ok (char_cons '.' _), run_append hdigits htail]
  | none =>
    have hwhole : n.whole ≠ [] := by simpa [hfraction] using n.digits_ne
    have hhead : (n.exponentText ++ rest).head? ≠ some '.' := by
      intro h
      have hstops : Stops (· == '.') (n.exponentText ++ rest) := by
        refine stops_exponentText n ?_ fun hx c hc ↦ ?_
        · intro c hc
          simp only [isMark, Bool.or_eq_true, decide_eq_true_eq] at hc
          rcases hc with rfl | rfl <;> rfl
        · rw [Option.mem_def.mp hc, Ne, Option.some.injEq] at hpoint
          simpa using hpoint hfraction hx
      exact Bool.false_ne_true (hstops '.' h).symm
    simp only [Numeral.fractionText, hfraction, Option.elim_none, List.nil_append]
    apply orElse_of_ok
    rw [bind_of_ok (digits_append n.isDigit_whole hwhole htail)]
    exact bind_of_ok (optional_of_miss (bind_of_miss (char_miss hhead)))

/-- A numeral without a point and without an exponent consists of digits alone. -/
theorem whole_text {n : Numeral} (hfraction : n.fraction = none) (hexponent : n.exponent = none) :
    Whole n.text := by
  have htext : n.text = n.whole := by
    simp [Numeral.text, Numeral.fractionText, Numeral.exponentText, hfraction, hexponent]
  have hblank : n.whole.dropWhile isTokenBlank = n.whole := by
    cases hwhole : n.whole with
    | nil => rfl
    | cons c cs =>
      refine dropWhile_blank_cons ?_ cs
      by_contra hc
      have hdigit := n.isDigit_whole c (by simp [hwhole])
      rw [not_isDigit_of_isTokenBlank (by simpa using hc)] at hdigit
      contradiction
  rw [Whole, htext, hblank]
  exact ⟨by simpa [hfraction] using n.digits_ne, n.isDigit_whole⟩

theorem number_append (n : Numeral) (hrest : Stops isNamePart rest)
    (hpoint : Whole n.text → rest.head? ≠ some '.') :
    number (n.text ++ rest) = .ok n.value rest := by
  have hmantissa := mantissa_append n hrest fun hf hx ↦ hpoint (whole_text hf hx)
  rw [number, Numeral.text, List.append_assoc, List.append_assoc, bind_of_ok hmantissa]
  dsimp only
  rw [bind_of_ok (optional_scale_append n hrest)]
  cases hx : n.exponent <;> simp [Numeral.value, hx, yield]

/-- What the reader of digits read: a numeral without its exponent, and the longest one. -/
theorem digits_of_mantissa {whole fraction : List Char}
    (h : mantissa s = .ok (whole, fraction) rest) :
    ∃ n : Numeral, n.exponent = none ∧ s = n.text ++ rest ∧ n.whole = whole ∧
      n.fraction.getD [] = fraction ∧ (n.fraction = none → rest.head? ≠ some '.') := by
  rcases orElse_eq_ok.mp h with h | ⟨-, h⟩
  · obtain ⟨ds, s₁, hds, fraction?, s₂, hfraction, hyield⟩ := by
      simpa only [bind_eq_ok] using h
    obtain ⟨rfl, hdigits, hne, -⟩ := run1_eq_ok hds
    cases hyield
    rcases optional_eq_ok hfraction with ⟨fs, rfl, hfs⟩ | ⟨rfl, rfl, hmiss⟩
    · obtain ⟨c, s₃, hpoint, hrun⟩ := bind_eq_ok.mp hfs
      have hs₁ := char_eq_ok hpoint
      obtain ⟨rfl, hfs, -⟩ := run_eq_ok hrun
      refine ⟨⟨whole, some fs, none, hdigits, by simpa using hfs, by simp [hne]⟩, rfl, ?_, rfl, rfl,
        by simp⟩
      simp [Numeral.text, Numeral.fractionText, Numeral.exponentText, hs₁]
    · refine ⟨⟨whole, none, none, hdigits, by simp, by simpa using hne⟩, rfl, ?_, rfl, rfl, ?_⟩
      · simp [Numeral.text, Numeral.fractionText, Numeral.exponentText]
      · intro _ hhead
        obtain ⟨t, ht⟩ := List.head?_eq_some_iff.mp hhead
        rw [ht, bind_of_ok (char_cons '.' t)] at hmiss
        contradiction
  · obtain ⟨c, s₁, hpoint, ds, s₂, hds, hyield⟩ := by simpa only [bind_eq_ok] using h
    have hs := char_eq_ok hpoint
    obtain ⟨rfl, hdigits, hne, -⟩ := run1_eq_ok hds
    cases hyield
    refine ⟨⟨[], some fraction, none, by simp, by simpa using hdigits, by simpa using hne⟩, rfl, ?_,
      rfl, rfl, by simp⟩
    simp [Numeral.text, Numeral.fractionText, Numeral.exponentText, hs]

/-- A number that is read is a numeral, and no point stands right behind it if it has none. -/
theorem numeral_of_number {x : Float} (h : number s = .ok x rest) :
    ∃ n : Numeral, s = n.text ++ rest ∧ n.value = x ∧ (Whole n.text → rest.head? ≠ some '.') := by
  obtain ⟨⟨whole, fraction⟩, s₁, hmantissa, h⟩ := bind_eq_ok.mp h
  obtain ⟨power?, s₂, hscale, hyield⟩ := bind_eq_ok.mp h
  obtain ⟨n, hnone, rfl, rfl, rfl, hpoint⟩ := digits_of_mantissa hmantissa
  cases hyield
  rcases optional_eq_ok hscale with ⟨power, rfl, hpower⟩ | ⟨rfl, rfl, -⟩
  · obtain ⟨x, rfl, rfl⟩ := exponent_of_scale hpower
    refine ⟨{ n with exponent := some x }, ?_, ?_, ?_⟩
    · simp [Numeral.text, Numeral.fractionText, Numeral.exponentText, hnone]
    · simp [Numeral.value]
    · refine fun hwhole ↦ absurd hwhole (not_whole_of_mem (c := x.mark) ?_ ?_ ?_)
      · simp [Numeral.text, Numeral.exponentText, Exponent.text]
      · rcases x.mark_eq with hx | hx <;> rw [hx] <;> rfl
      · rcases x.mark_eq with hx | hx <;> rw [hx] <;> rfl
  · refine ⟨n, rfl, by simp [Numeral.value, hnone], fun hwhole ↦ hpoint ?_⟩
    by_contra hfraction
    obtain ⟨fs, hfs⟩ := Option.ne_none_iff_exists'.mp hfraction
    refine not_whole_of_mem (c := '.') ?_ rfl rfl hwhole
    simp [Numeral.text, Numeral.fractionText, hfs]

/-! ## Strings -/

/-- A quoted text is read up to its closing quote, with the escapes undone. -/
theorem stringRest_append {quote : Char} {text chars : List Char} (hquote : quote ≠ '\\')
    (h : Quoted quote text chars) (rest : List Char) :
    stringRest quote (text ++ quote :: rest) = .ok chars rest := by
  induction h with
  | nil =>
    cases rest with
    | nil => rw [List.nil_append, stringRest, if_pos rfl]
    | cons c rest => rw [List.nil_append, stringRest, if_pos rfl]
  | @plain c text chars hc hbackslash h ih =>
    obtain ⟨d, t, ht⟩ : ∃ d t, text ++ quote :: rest = d :: t :=
      List.exists_cons_of_ne_nil (by simp)
    rw [List.cons_append, ht, stringRest, if_neg hc, if_neg hbackslash, ← ht, ih]
    rfl
  | escaped c h ih =>
    rw [List.cons_append, List.cons_append, stringRest, if_neg (Ne.symm hquote), if_pos rfl, ih]
    rfl

/-- What is read up to a closing quote is a quoted text. -/
theorem quoted_of_stringRest {quote : Char} {chars : List Char}
    (h : stringRest quote s = .ok chars rest) :
    ∃ text, s = text ++ quote :: rest ∧ Quoted quote text chars := by
  fun_induction stringRest quote s generalizing chars with
  | case1 => contradiction
  | case2 =>
    cases h
    exact ⟨[], rfl, .nil⟩
  | case3 => contradiction
  | case4 d t =>
    cases h
    exact ⟨[], rfl, .nil⟩
  | case5 d t hquote ih =>
    obtain ⟨cs, hrest, rfl⟩ := map_eq_ok.mp h
    obtain ⟨text, rfl, htext⟩ := ih hrest
    exact ⟨'\\' :: d :: text, rfl, .escaped d htext⟩
  | case6 c d t hquote hbackslash ih =>
    obtain ⟨cs, hrest, rfl⟩ := map_eq_ok.mp h
    obtain ⟨text, ht, htext⟩ := ih hrest
    exact ⟨c :: text, by rw [ht, List.cons_append], .plain hquote hbackslash htext⟩

/-- A quoted text between two quotes of one kind is read with its escapes undone. -/
theorem string_append {quote : Char} {text chars : List Char} (hquote : IsQuote quote)
    (h : Quoted quote text chars) (rest : List Char) :
    string (quote :: (text ++ quote :: rest)) = .ok (String.ofList chars) rest := by
  have hsatisfy : satisfy (fun c ↦ c = '\'' || c = '"') (quote :: (text ++ quote :: rest))
      = .ok quote (text ++ quote :: rest) :=
    satisfy_cons (by simpa [IsQuote] using hquote) _
  have hne : quote ≠ '\\' := by rcases hquote with rfl | rfl <;> decide
  rw [string, bind_of_ok hsatisfy, bind_of_ok (stringRest_append hne h rest)]
  rfl

/-- What is read as a string is a quoted text between two quotes of one kind. -/
theorem quoted_of_string {word : String} (h : string s = .ok word rest) :
    ∃ quote text chars, s = quote :: (text ++ quote :: rest) ∧ IsQuote quote ∧
      Quoted quote text chars ∧ word = String.ofList chars := by
  simp only [string, bind_eq_ok] at h
  obtain ⟨quote, s₁, hquote, chars, s₂, hrest, hyield⟩ := h
  obtain ⟨rfl, hkind⟩ := satisfy_eq_ok hquote
  obtain ⟨text, rfl, htext⟩ := quoted_of_stringRest hrest
  cases hyield
  exact ⟨quote, text, chars, rfl, by simpa [IsQuote] using hkind, htext, rfl⟩

/-! ## Names and placeholders -/

theorem name_append {cs : List Char} (h : IsName cs) (hrest : Stops isNamePart rest) :
    name (cs ++ rest) = .ok (String.ofList cs) rest := by
  cases cs with
  | nil => exact h.elim
  | cons c cs =>
    rw [name, List.cons_append, bind_of_ok (satisfy_cons h.1 _), bind_of_ok (run_append h.2 hrest)]
    rfl

theorem isName_of_name {word : String} (h : name s = .ok word rest) :
    ∃ cs, s = cs ++ rest ∧ IsName cs ∧ word = String.ofList cs := by
  simp only [name, bind_eq_ok] at h
  obtain ⟨c, s₁, hc, cs, s₂, hcs, hyield⟩ := h
  obtain ⟨rfl, hstart⟩ := satisfy_eq_ok hc
  obtain ⟨rfl, hpart, -⟩ := run_eq_ok hcs
  cases hyield
  exact ⟨c :: cs, rfl, ⟨hstart, hpart⟩, rfl⟩

/-- A placeholder is read whatever stands behind it. -/
theorem placeholder_append {body : List Char} {e : Expr} (hbody : ∀ c ∈ body, c ≠ '}')
    (h : placeholderOf? body = some e) (rest : List Char) :
    placeholder ('$' :: '{' :: (body ++ '}' :: rest)) = .ok e rest := by
  have hopening : text ['$', '{'] ('$' :: '{' :: (body ++ '}' :: rest))
      = .ok () (body ++ '}' :: rest) := text_append _ _
  have hrun : run (· != '}') (body ++ '}' :: rest) = .ok body ('}' :: rest) := by
    refine run_append (fun c hc ↦ bne_iff_ne.mpr (hbody c hc)) fun c hc ↦ ?_
    cases hc
    rfl
  rw [placeholder, bind_of_ok hopening, bind_of_ok hrun, bind_of_ok (char_cons '}' rest), h]

end MapStyle.Expr.Parser
