import MapStyle.Proofs.Expr.Completeness

/-!
# What is read is a phrase

What the reader of expressions takes from a text is a phrase, and the value that it gives is the
tree of the phrase. Together with the reading of phrases this makes the grammar and the parser one:
the parser accepts exactly the texts that are expressions, each with the one tree that it denotes.
-/

namespace MapStyle.Expr

open Text Reader Expr.Parser

variable {α β : Type} {s rest t u : List Char} {e : Expr} {nested : Reader Expr}

/-- What the reader takes from the front of a text stands in the relation to the value it gives. -/
def Takes (p : Reader α) (Q : List Char → α → Prop) : Prop :=
  ∀ ⦃s rest : List Char⦄ ⦃a : α⦄, p s = .ok a rest → ∃ t, s = t ++ rest ∧ Q t a

/-- Nested expressions are phrases. -/
abbrev TakesPhrase (r : Rank) (p : Reader Expr) : Prop := Takes p (Phrase r)

/-! ## Lists -/

/-- The items behind an expression, with the commas in front of them. -/
theorem items_of_many (h : TakesPhrase .expression nested) {es : List Expr}
    (hmany : many (symbol ',' >>= fun _ ↦ nested) s = .ok es rest) (hu : Phrase .expression u e) :
    ∃ t, u ++ s = t ++ rest ∧ Phrase .items t (.array (e :: es)) := by
  induction es generalizing s u e with
  | nil =>
    rcases many_eq_ok hmany with ⟨-, rfl, -⟩ | ⟨_, _, _, hes, -⟩
    · exact ⟨u, rfl, .item hu⟩
    · contradiction
  | cons e' es ih =>
    rcases many_eq_ok hmany with ⟨hnil, -, -⟩ | ⟨a, others, s', hes, hitem, -, hothers⟩
    · contradiction
    · cases hes
      obtain ⟨c, s₁, hcomma, hnested⟩ := bind_eq_ok.mp hitem
      obtain ⟨before, after, hbefore, hafter, rfl⟩ := symbol_eq_ok hcomma
      obtain ⟨v, rfl, hv⟩ := h hnested
      obtain ⟨t, ht, hitems⟩ := ih hothers (hv.prepend (by simp) hafter)
      refine ⟨(u ++ before) ++ ',' :: t, ?_, .moreItems (hu.append (by simp) hbefore) hitems⟩
      simp only [List.append_assoc, List.cons_append] at ht ⊢
      rw [← ht]

theorem takes_list (h : TakesPhrase .expression nested) :
    Takes (list nested) fun t es ↦ Phrase .items t (.array es) := by
  intro s rest es hlist
  rcases separated_eq_ok hlist with ⟨rfl, rfl, -⟩ | ⟨e, others, s', rfl, he, hmany⟩
  · exact ⟨[], rfl, .noItems blanks_nil⟩
  · obtain ⟨u, rfl, hu⟩ := h he
    exact items_of_many h hmany hu

/-- Between two symbols stands what the reader takes, with blanks around it. -/
theorem enclosed_eq_ok {p : Reader α} {Q : List Char → α → Prop} (hp : Takes p Q)
    (hQ : ∀ ⦃b t b' a⦄, Blanks b → Blanks b' → Q t a → Q (b ++ (t ++ b')) a)
    {opening closing : Char} {a : α} (h : enclosed opening closing p s = .ok a rest) :
    ∃ before t after, Blanks before ∧ Blanks after ∧ Q t a ∧
      s = before ++ opening :: (t ++ closing :: (after ++ rest)) := by
  obtain ⟨c, s₁, hopening, h⟩ := bind_eq_ok.mp h
  obtain ⟨a', s₂, ha, h⟩ := bind_eq_ok.mp h
  obtain ⟨c', s₃, hclosing, hyield⟩ := bind_eq_ok.mp h
  cases hyield
  obtain ⟨before, b, hbefore, hb, rfl⟩ := symbol_eq_ok hopening
  obtain ⟨t, rfl, ht⟩ := hp ha
  obtain ⟨b', after, hb', hafter, rfl⟩ := symbol_eq_ok hclosing
  exact ⟨before, b ++ (t ++ b'), after, hbefore, hafter, hQ hb hb' ht, by simp⟩

theorem Phrase.surround {r : Rank} (hr : r ≠ .primary) ⦃b t b' : List Char⦄ ⦃e : Expr⦄
    (hb : Blanks b) (hb' : Blanks b') (h : Phrase r t e) : Phrase r (b ++ (t ++ b')) e :=
  (h.append hr hb').prepend hr hb

theorem arguments_eq_ok (h : TakesPhrase .expression nested) {args : List Expr}
    (hargs : arguments nested s = .ok args rest) :
    ∃ before t after, Blanks before ∧ Blanks after ∧ Phrase .items t (.array args) ∧
      s = before ++ '(' :: (t ++ ')' :: (after ++ rest)) :=
  enclosed_eq_ok (takes_list h) (fun _ _ _ _ hb hb' ht ↦ ht.surround (by simp) hb hb') hargs

/-! ## Operands -/

/-- A primary phrase stands in front of blanks, and no point stands right behind it if it is a
number that would go on with one. -/
def PrimaryBefore (s : List Char) (e : Expr) (rest : List Char) : Prop :=
  ∃ before t after, Blanks before ∧ Blanks after ∧ s = before ++ (t ++ (after ++ rest)) ∧
    Phrase .primary t e ∧ (Whole t → (after ++ rest).head? ≠ some '.')

theorem primaryBefore_of_mem {before after : List Char} (c : Char) (hbefore : Blanks before)
    (hafter : Blanks after) (ht : Phrase .primary t e) (hs : s = before ++ (t ++ (after ++ rest)))
    (hc : c ∈ t) (hblank : isTokenBlank c = false) (hdigit : c.isDigit = false) :
    PrimaryBefore s e rest :=
  ⟨before, t, after, hbefore, hafter, hs, ht,
    fun hwhole ↦ absurd hwhole (not_whole_of_mem hc hblank hdigit)⟩

/-- A name is not a whole number, so a point may stand behind it. -/
theorem not_whole_of_isName {cs : List Char} (h : IsName cs) (s : List Char) :
    ¬ Whole (cs ++ s) := by
  cases cs with
  | nil => exact h.elim
  | cons c cs =>
    refine not_whole_of_mem (c := c) (by simp) (not_isTokenBlank_of_isNameStart h.1) ?_
    by_contra hdigit
    have hstart := not_isNameStart_of_isDigit (by simpa using hdigit)
    rw [h.1] at hstart
    contradiction

theorem primaryBefore_of_isName {cs after : List Char} (hname : IsName cs) (hafter : Blanks after)
    (ht : Phrase .primary (cs ++ u) e) (hs : s = cs ++ (u ++ (after ++ rest))) :
    PrimaryBefore s e rest :=
  ⟨[], cs ++ u, after, blanks_nil, hafter, by simpa using hs, ht,
    fun hwhole ↦ absurd hwhole (not_whole_of_isName hname u)⟩

/-- What is read behind the name of a space is a constant or a call. -/
theorem takes_spaceMember (h : TakesPhrase .expression nested) {space : String}
    (hspace : space = "Math" ∨ space = "Number")
    (hmember : spaceMember nested space s = .ok e rest) :
    PrimaryBefore (space.toList ++ s) e rest := by
  have hspaceName := isName_of_space hspace
  obtain ⟨c, s₁, hpoint, hmember⟩ := bind_eq_ok.mp hmember
  obtain ⟨word, s₂, hword, hmember⟩ := bind_eq_ok.mp hmember
  obtain ⟨args?, s₃, hattempt, hvalue⟩ := bind_eq_ok.mp hmember
  obtain ⟨before, after, hbefore, hafter, rfl⟩ := symbol_eq_ok hpoint
  obtain ⟨cs, rfl, hcs, rfl⟩ := isName_of_name hword
  rcases attempt_eq_ok hattempt with ⟨args, rfl, hargs⟩ | ⟨rfl, rfl⟩
  · dsimp only at hvalue
    split at hvalue
    · rename_i hmath
      cases hvalue
      subst hmath
      obtain ⟨b, t, b', hb, hb', ht, rfl⟩ := arguments_eq_ok h hargs
      exact primaryBefore_of_isName hspaceName hb' (.mathCall hbefore hafter hcs hb ht) (by simp)
    · contradiction
  · cases hx : constant? space (String.ofList cs) with
    | none =>
      rw [hx] at hvalue
      contradiction
    | some x =>
      rw [hx] at hvalue
      cases hvalue
      have hphrase := Phrase.constant hbefore hafter hx
      rw [String.toList_ofList] at hphrase
      exact primaryBefore_of_isName hspaceName blanks_nil hphrase (by simp)

/-- What begins with a name is a call, a word of its own, or a member of a space. -/
theorem takes_named (h : TakesPhrase .expression nested) (hnamed : named nested s = .ok e rest) :
    PrimaryBefore s e rest := by
  obtain ⟨word, s₁, hword, hnamed⟩ := bind_eq_ok.mp hnamed
  obtain ⟨args?, s₂, hattempt, hvalue⟩ := bind_eq_ok.mp hnamed
  obtain ⟨cs, rfl, hcs, rfl⟩ := isName_of_name hword
  rcases attempt_eq_ok hattempt with ⟨args, rfl, hargs⟩ | ⟨rfl, rfl⟩
  · cases hvalue
    obtain ⟨b, t, b', hb, hb', ht, rfl⟩ := arguments_eq_ok h hargs
    exact primaryBefore_of_isName hcs hb' (.call hcs hb ht) (by simp)
  · dsimp only at hvalue
    split at hvalue
    · rename_i hspace
      have hspace : String.ofList cs = "Math" ∨ String.ofList cs = "Number" := by simpa using hspace
      have hmember := takes_spaceMember h hspace hvalue
      rwa [String.toList_ofList] at hmember
    · cases hkeyword : keyword? (String.ofList cs) with
      | none =>
        rw [hkeyword] at hvalue
        contradiction
      | some e' =>
        rw [hkeyword] at hvalue
        cases hvalue
        have hphrase := Phrase.keyword hkeyword
        rw [String.toList_ofList, ← List.append_nil cs] at hphrase
        exact primaryBefore_of_isName hcs blanks_nil hphrase (by simp)

/-- Each alternative of a primary expression takes a primary phrase. -/
theorem takes_primary (h : TakesPhrase .expression nested) (hs : primary nested s = .ok e rest) :
    PrimaryBefore s e rest := by
  obtain ⟨p, hp, hs⟩ := choice_eq_ok hs
  simp only [List.mem_cons, List.not_mem_nil, or_false] at hp
  rcases hp with rfl | rfl | rfl | rfl | rfl | rfl
  · obtain ⟨x, s₁, hx, hyield⟩ := bind_eq_ok.mp hs
    obtain ⟨n, rfl, rfl, hpoint⟩ := numeral_of_number hx
    cases hyield
    exact ⟨[], n.text, [], blanks_nil, blanks_nil, rfl, .number n, hpoint⟩
  · obtain ⟨word, s₁, hword, hyield⟩ := bind_eq_ok.mp hs
    obtain ⟨quote, text, chars, rfl, hquote, htext, rfl⟩ := quoted_of_string hword
    cases hyield
    exact primaryBefore_of_mem quote blanks_nil blanks_nil (.string hquote htext) (by simp)
      (by simp) (by rcases hquote with rfl | rfl <;> rfl) (by rcases hquote with rfl | rfl <;> rfl)
  · obtain ⟨body, rfl, hbody, he⟩ := Spells.eq_append_of_placeholder hs
    exact primaryBefore_of_mem '$' blanks_nil blanks_nil (.placeholder hbody he) (by simp) (by simp)
      rfl rfl
  · obtain ⟨es, s₁, hes, hyield⟩ := bind_eq_ok.mp hs
    cases hyield
    obtain ⟨b, t, b', hb, hb', ht, rfl⟩ := enclosed_eq_ok (takes_list h)
      (fun _ _ _ _ hb hb' ht ↦ ht.surround (by simp) hb hb') hes
    exact primaryBefore_of_mem '[' hb hb' (.array ht) (by simp) (by simp) rfl rfl
  · obtain ⟨b, t, b', hb, hb', ht, rfl⟩ := enclosed_eq_ok h (Phrase.surround (by simp)) hs
    exact primaryBefore_of_mem '(' hb hb' (.parens ht) (by simp) (by simp) rfl rfl
  · exact takes_named h hs

/-- Blanks in front of a point belong to the operand. -/
theorem not_whole_of_point {before : List Char} (hbefore : Blanks before)
    (hpoint : Whole u → (before ++ '.' :: s).head? ≠ some '.') : ¬ Whole (u ++ before) := by
  intro hwhole
  have hnil := eq_nil_of_whole_append hbefore hwhole
  rw [hnil, List.append_nil] at hwhole
  rw [hnil] at hpoint
  exact hpoint hwhole rfl

/-- A suffix behind an operand makes a longer operand, and a point behind that one is a suffix. -/
theorem operand_of_suffix (h : TakesPhrase .expression nested) {x : Suffix}
    (hsuffix : suffix nested s = .ok x rest) (hu : Phrase .operand u e)
    (hpoint : Whole u → s.head? ≠ some '.') :
    ∃ t, u ++ s = t ++ rest ∧ Phrase .operand t (x.attach e) ∧ ¬ Whole t := by
  rcases orElse_eq_ok.mp hsuffix with hmember | ⟨-, hindex⟩
  · obtain ⟨c, s₁, hsymbol, hmember⟩ := bind_eq_ok.mp hmember
    obtain ⟨word, s₂, hword, hmember⟩ := bind_eq_ok.mp hmember
    obtain ⟨args?, s₃, hoptional, hyield⟩ := bind_eq_ok.mp hmember
    obtain ⟨before, after, hbefore, hafter, rfl⟩ := symbol_eq_ok hsymbol
    obtain ⟨cs, rfl, hcs, rfl⟩ := isName_of_name hword
    have hobject := hu.append (by simp) hbefore
    have hobjectPoint := not_whole_of_point hbefore hpoint
    rcases optional_eq_ok hoptional with ⟨args, rfl, hargs⟩ | ⟨rfl, rfl, -⟩
    · cases hyield
      obtain ⟨b, t, b', hb, hb', ht, rfl⟩ := arguments_eq_ok h hargs
      exact ⟨_, by simp, .method hobject hobjectPoint hafter hcs hb ht hb',
        not_whole_of_mem (c := '.') (by simp) rfl rfl⟩
    · cases hyield
      exact ⟨_, by simp, .member hobject hobjectPoint hafter hcs blanks_nil,
        not_whole_of_mem (c := '.') (by simp) rfl rfl⟩
  · obtain ⟨key, s₁, hkey, hyield⟩ := bind_eq_ok.mp hindex
    cases hyield
    obtain ⟨b, t, b', hb, hb', ht, rfl⟩ := enclosed_eq_ok h (Phrase.surround (by simp)) hkey
    exact ⟨_, by simp, .index (hu.append (by simp) hb) ht hb',
      not_whole_of_mem (c := '[') (by simp) rfl rfl⟩

/-- Suffixes go to the operand one by one, and only the first of them may be kept off by a number.
-/
theorem operand_of_many (h : TakesPhrase .expression nested) {xs : List Suffix}
    (hmany : many (suffix nested) s = .ok xs rest) (hu : Phrase .operand u e)
    (hpoint : Whole u → s.head? ≠ some '.') :
    ∃ t, u ++ s = t ++ rest ∧ Phrase .operand t (xs.foldl Suffix.attach e) := by
  induction xs generalizing s u e with
  | nil =>
    rcases many_eq_ok hmany with ⟨-, rfl, -⟩ | ⟨_, _, _, hxs, -⟩
    · exact ⟨u, rfl, hu⟩
    · contradiction
  | cons x xs ih =>
    rcases many_eq_ok hmany with ⟨hnil, -, -⟩ | ⟨x', xs', s', hxs, hsuffix, -, hothers⟩
    · contradiction
    · cases hxs
      obtain ⟨t, ht, hphrase, hnot⟩ := operand_of_suffix h hsuffix hu hpoint
      rw [ht]
      exact ih hothers hphrase fun hwhole ↦ absurd hwhole hnot

/-- An operand is a primary expression between blanks, with its suffixes. -/
theorem takes_operand (h : TakesPhrase .expression nested) :
    TakesPhrase .operand (operand nested) := by
  intro s rest e hs
  obtain ⟨e', s₁, htoken, hs⟩ := bind_eq_ok.mp hs
  obtain ⟨xs, s₂, hmany, hyield⟩ := bind_eq_ok.mp hs
  cases hyield
  obtain ⟨after, hafter, hprimary⟩ := token_eq_ok htoken
  obtain ⟨before, t, after', hbefore, hafter', hblank, ht, hpoint⟩ := takes_primary h hprimary
  have hoperand := Phrase.operand ((blanks_takeWhile s).append hbefore) ht (hafter'.append hafter)
  have hs : s = (s.takeWhile isTokenBlank ++ before) ++ (t ++ (after' ++ after)) ++ s₁ :=
    calc s = s.takeWhile isTokenBlank ++ s.dropWhile isTokenBlank :=
          List.takeWhile_append_dropWhile.symm
      _ = (s.takeWhile isTokenBlank ++ before) ++ (t ++ (after' ++ after)) ++ s₁ := by
          rw [hblank]
          simp
  have hoperandPoint :
      Whole ((s.takeWhile isTokenBlank ++ before) ++ (t ++ (after' ++ after))) →
        s₁.head? ≠ some '.' := by
    intro hwhole
    rw [whole_append ((blanks_takeWhile s).append hbefore)] at hwhole
    have hnil := eq_nil_of_whole_append (hafter'.append hafter) hwhole
    rw [hnil, List.append_nil] at hwhole
    rw [← List.append_assoc, hnil] at hpoint
    exact hpoint hwhole
  obtain ⟨u, hu, hphrase⟩ := operand_of_many h hmany hoperand hoperandPoint
  exact ⟨u, hs.trans hu, hphrase⟩

/-! ## Operators -/

/-- Signs are taken one by one, from the outermost on. -/
theorem takes_signed (h : TakesPhrase .expression nested) :
    TakesPhrase (.row []) (signed nested) := by
  intro s
  fun_induction signed nested s with
  | case1 s op t hop hlt ih =>
    intro rest e he
    obtain ⟨operand, hoperand, rfl⟩ := map_eq_ok.mp he
    obtain ⟨before, after, hbefore, hafter, rfl⟩ := leadingOp_eq_ok hop
    obtain ⟨u, rfl, hu⟩ := ih hoperand
    exact ⟨_, by simp, .unary hbefore op (hu.prepend (by simp) hafter)⟩
  | case2 =>
    intro rest e he
    contradiction
  | case3 s hmiss =>
    intro rest e he
    obtain ⟨u, rfl, hu⟩ := takes_operand h he
    exact ⟨u, rfl, .unsigned hu⟩
  | case4 =>
    intro rest e he
    contradiction

/-- What is read behind a row makes a longer row of the same level, with the row on its left. -/
theorem row_of_rowRest {ops : List BinaryOp} {levels : List (List BinaryOp)}
    {tighter : Reader Expr} (h : TakesPhrase (.row levels) tighter) {lhs : Expr}
    (hs : rowRest (operatorOf ops) tighter lhs s = .ok e rest)
    (hu : Phrase (.row (ops :: levels)) u lhs) :
    ∃ t, u ++ s = t ++ rest ∧ Phrase (.row (ops :: levels)) t e := by
  fun_induction rowRest (operatorOf ops) tighter lhs s generalizing u with
  | case1 lhs s hmiss =>
    cases hs
    exact ⟨u, rfl, hu⟩
  | case2 => contradiction
  | case3 => contradiction
  | case4 => contradiction
  | case5 lhs s op t hop rhs left hrhs hlt ih =>
    obtain ⟨hmem, before, after, hbefore, hafter, rfl⟩ := operatorOf_eq_ok hop
    obtain ⟨v, rfl, hv⟩ := h hrhs
    have hbinary := Phrase.binary hmem (hu.append (by simp) hbefore) (hv.prepend (by simp) hafter)
    obtain ⟨w, hw, hphrase⟩ := ih hs hbinary
    exact ⟨w, by simpa using hw, hphrase⟩
  | case6 => contradiction

/-- By induction over the levels, from the tightest on. -/
theorem takes_row (h : TakesPhrase .expression nested) (levels : List (List BinaryOp)) :
    TakesPhrase (.row levels) (row nested levels) := by
  induction levels with
  | nil => exact takes_signed h
  | cons ops tighter ih =>
    intro s rest e hs
    obtain ⟨lhs, s₁, hlhs, hrest⟩ := bind_eq_ok.mp hs
    obtain ⟨u, rfl, hu⟩ := ih hlhs
    exact row_of_rowRest ih hrest (.tighter ops hu)

/-- A row alone is an expression, and so is a test with two branches. -/
theorem takes_conditional (h : TakesPhrase .expression nested) :
    TakesPhrase .expression (Parser.conditional nested) := by
  intro s rest e hs
  obtain ⟨test, s₁, htest, hs⟩ := bind_eq_ok.mp hs
  obtain ⟨pair?, s₂, hoptional, hyield⟩ := bind_eq_ok.mp hs
  obtain ⟨u, rfl, hu⟩ := takes_row h levels htest
  rcases optional_eq_ok hoptional with ⟨⟨consequent, alternate⟩, rfl, hbranches⟩ | ⟨rfl, rfl, -⟩
  · cases hyield
    obtain ⟨c, s₃, hquestion, hbranches⟩ := bind_eq_ok.mp hbranches
    obtain ⟨consequent', s₄, hthen, hbranches⟩ := bind_eq_ok.mp hbranches
    obtain ⟨c', s₅, hcolon, hbranches⟩ := bind_eq_ok.mp hbranches
    obtain ⟨alternate', s₆, helse, hyield⟩ := bind_eq_ok.mp hbranches
    cases hyield
    obtain ⟨b₁, b₂, hb₁, hb₂, rfl⟩ := symbol_eq_ok hquestion
    obtain ⟨v, rfl, hv⟩ := h hthen
    obtain ⟨b₃, b₄, hb₃, hb₄, rfl⟩ := symbol_eq_ok hcolon
    obtain ⟨w, rfl, hw⟩ := h helse
    exact ⟨_, by simp, .conditional (hu.append (by simp) hb₁) (hv.surround (by simp) hb₂ hb₃)
      (hw.prepend (by simp) hb₄)⟩
  · cases hyield
    exact ⟨u, rfl, .row hu⟩

/-- By the recursion of the parser: whatever it takes is an expression. -/
theorem takes_expression : TakesPhrase .expression Parser.expression := by
  intro s
  fun_induction Parser.expression s with
  | case1 s ih =>
    intro rest e he
    -- An expression inside another one is only read where less text is left.
    refine takes_conditional (fun t rest e he ↦ ?_) he
    split at he
    · rename_i hlt
      exact ih t hlt he
    · contradiction

/-- The parser accepts a text exactly if it is an expression, with the tree that it denotes. -/
theorem parse?_eq_some_iff {source : String} :
    parse? source = some e ↔ Phrase .expression source.toList e := by
  refine ⟨fun h ↦ ?_, parse?_of_phrase⟩
  unfold parse? whole at h
  split at h
  · rename_i e' he
    cases h
    obtain ⟨after, hafter, hread⟩ := token_eq_ok he
    obtain ⟨t, ht, hphrase⟩ := takes_expression hread
    have hsource : source.toList = source.toList.takeWhile isTokenBlank ++ (t ++ after) := by
      rw [← List.append_nil after, ← ht, List.takeWhile_append_dropWhile]
    rw [hsource]
    exact hphrase.surround (by simp) (blanks_takeWhile _) hafter
  · contradiction

end MapStyle.Expr
