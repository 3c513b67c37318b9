import MapStyle.Proofs.Expr.Alignment

/-!
# Placeholders along the grammar

Every reader of the grammar of expressions is followed by the scan for placeholders. Numbers, names,
operators and brackets hold no character that the scan stops at; a string is passed over up to its
closing quote; and a placeholder is read by both.
-/

namespace MapStyle.Expr

open Text

/-- A class without the dollar sign and the quotes is neutral. -/
theorem neutral_of_class {accept : Char → Bool} (hdollar : accept '$' = false)
    (hsingle : accept '\'' = false) (hdouble : accept '"' = false) (c : Char)
    (h : accept c = true) : Placeholder.Neutral c := by
  refine ⟨?_, ?_, ?_⟩ <;> rintro rfl
  · rw [hdollar] at h
    contradiction
  · rw [hsingle] at h
    contradiction
  · rw [hdouble] at h
    contradiction

namespace Spells

/-! ## Numbers, names and strings -/

theorem digits : Spells [] Reader.digits fun _ ↦ [] := run1 (neutral_of_class rfl rfl rfl)

/-- Digits and points are neutral. -/
theorem mantissa : Spells [] Parser.mantissa fun _ ↦ [] := by
  have hpoint : Placeholder.Neutral '.' := by decide
  apply orElse
  · apply bind digits
    intro whole
    refine bind (optional (bind (char hpoint) fun _ ↦ run (neutral_of_class rfl rfl rfl)))
      fun fraction ↦ yield (by simp) ?_
    cases fraction <;> rfl
  · exact bind (char hpoint) fun _ ↦ bind digits fun _ ↦ yield (by simp) rfl

theorem scale : Spells [] Parser.scale fun _ ↦ [] := by
  apply bind (satisfy (neutral_of_class rfl rfl rfl))
  intro _
  apply bind (optional (satisfy (neutral_of_class rfl rfl rfl)))
  intro sign
  refine bind digits fun _ ↦ yield (by simp) ?_
  cases sign <;> rfl

theorem number : Spells [] Parser.number fun _ ↦ [] := by
  refine bind mantissa fun _ ↦ bind (optional scale) fun power ↦ yield (by simp) ?_
  cases power <;> rfl

/-- What a name reads where it is not the name of something else. -/
def readsOfWord (word : String) : List Reading := if word = "feature" then [.feature] else []

@[simp] theorem bodiesOf_readsOfWord (word : String) : bodiesOf (readsOfWord word) = [] := by
  unfold readsOfWord
  split <;> rfl

/-- A name that was read stands in front of the rest, and all of it is neutral. -/
theorem eq_append_of_name {s rest : List Char} {word : String}
    (h : Reader.name s = .ok word rest) :
    s = word.toList ++ rest ∧ ∀ c ∈ word.toList, Placeholder.Neutral c := by
  cases s with
  | nil => contradiction
  | cons c s =>
    simp only [Reader.name, Reader.bind_apply, Reader.satisfy] at h
    split at h
    · rename_i d t hd
      split at hd
      · rename_i hstart
        cases hd
        cases h
        refine ⟨by simp [List.takeWhile_append_dropWhile], fun d hd ↦ ?_⟩
        rcases List.mem_cons.mp (by simpa using hd) with rfl | hd
        · exact neutral_of_class rfl rfl rfl d hstart
        · have hpart : Reader.isNamePart d = true := List.mem_takeWhile_imp hd
          exact neutral_of_class rfl rfl rfl d hpart
      · contradiction
    · contradiction
    · contradiction

/-- A name alone reads nothing, unless it is that of the feature. -/
theorem name : Spells [] Reader.name readsOfWord := by
  apply intro
  intro s rest word h
  obtain ⟨rfl, hneutral⟩ := eq_append_of_name h
  have hpasses : Passes (word.toList ++ rest) [] rest := Passes.of_neutral hneutral
  refine ⟨hpasses.suffix, by rw [hpasses.bodies, bodiesOf_readsOfWord, bodiesOf_nil], ?_, ?_⟩
  · intro r hr
    unfold readsOfWord at hr
    split at hr
    · rw [List.mem_singleton.mp hr]
      trivial
    · contradiction
  · intro hfeature
    unfold readsOfWord at hfeature
    split at hfeature
    · rename_i hword
      rw [hword]
      exact (List.prefix_append _ rest).isInfix
    · contradiction

/-- The scan comes out of a string where the parser does. -/
theorem afterQuote_of_stringRest {quote : Char} {s cs rest : List Char}
    (h : Parser.stringRest quote s = .ok cs rest) :
    Placeholder.afterQuote quote s = rest ∧ rest <:+ s := by
  fun_induction Parser.stringRest quote s generalizing cs with
  | case1 => contradiction
  | case2 =>
    cases h
    exact ⟨rfl, List.nil_suffix⟩
  | case3 => contradiction
  | case4 d t =>
    cases h
    exact ⟨by rw [Placeholder.afterQuote, if_pos rfl], List.suffix_cons _ _⟩
  | case5 d t hquote ih =>
    obtain ⟨cs, hrest, -⟩ := map_eq_ok.mp h
    obtain ⟨hafter, hsuffix⟩ := ih hrest
    rw [Placeholder.afterQuote, if_neg hquote, if_pos rfl]
    exact ⟨hafter, hsuffix.trans ((List.suffix_cons _ _).trans (List.suffix_cons _ _))⟩
  | case6 c d t hquote hbackslash ih =>
    obtain ⟨cs, hrest, -⟩ := map_eq_ok.mp h
    obtain ⟨hafter, hsuffix⟩ := ih hrest
    rw [Placeholder.afterQuote, if_neg hquote, if_neg hbackslash]
    exact ⟨hafter, hsuffix.trans (List.suffix_cons _ _)⟩

/-- The scan passes over a string, whatever stands in it. -/
theorem string : Spells [] Parser.string fun _ ↦ [] := by
  apply intro
  intro s rest text h
  cases s with
  | nil => contradiction
  | cons quote s =>
    simp only [Parser.string, Reader.bind_apply, Reader.satisfy] at h
    split at h
    · rename_i d t hd
      split at hd
      · rename_i hquote
        cases hd
        split at h
        · rename_i cs left hrest
          cases h
          obtain ⟨hafter, hsuffix⟩ := afterQuote_of_stringRest hrest
          refine ⟨hsuffix.trans (List.suffix_cons _ _), ?_, by simp, by simp⟩
          rw [Placeholder.bodies_quote (by simpa using hquote), hafter, bodiesOf_nil,
            List.nil_append]
        · contradiction
        · contradiction
      · contradiction
    · contradiction
    · contradiction

/-! ## Placeholders -/

/-- A path that the parser accepts is the dollar sign alone, or goes on with a character that does
not end the line. -/
theorem isPath_of_parse {rest : List Char} {p : Path} (htrim : trim ('$' :: rest) = '$' :: rest)
    (h : Path.parse (String.ofList ('$' :: rest)) = .ok p) :
    p.source.toList = ['$'] ∨ Placeholder.isPath p.source.toList = true := by
  rw [Path.parse, String.toList_ofList, htrim] at h
  split at h
  · rename_i segments hwhole
    cases h
    rw [String.toList_ofList]
    cases rest with
    | nil => exact .inl rfl
    | cons c rest =>
      refine .inr (by_contra fun hpath ↦ ?_)
      have hc : ((c = '\n' ∨ c = '\r') ∨ c = '\u2028') ∨ c = '\u2029' := by
        simpa only [Placeholder.isPath, Bool.not_eq_true', Bool.not_eq_false, Bool.or_eq_true,
          decide_eq_true_eq] using hpath
      have hmiss : Path.segment (c :: rest) = .miss := by
        rcases hc with ((rfl | rfl) | rfl) | rfl <;> rfl
      simp [Reader.whole, Path.steps, Reader.bind_apply, Reader.char, Reader.satisfy, Reader.many,
        hmiss] at hwhole
  · contradiction

/-- The body of a placeholder spells, but for its blanks, the one thing that the placeholder reads.
-/
theorem reads_of_placeholderOf? {body : List Char} {e : Expr}
    (h : Parser.placeholderOf? body = some e) :
    bodiesOf e.reads = [trim body] ∧ (∀ r ∈ e.reads, r.Spelled) ∧ .feature ∉ e.reads := by
  unfold Parser.placeholderOf? at h
  split at h
  · rename_i rest hbody
    split at h
    · rename_i p hp
      cases h
      have hsource : p.source = String.ofList ('$' :: rest) := by
        unfold Path.parse at hp
        split at hp
        · cases hp
          rfl
        · contradiction
      have hpath := isPath_of_parse (by rw [← hbody, Placeholder.trim_trim]) hp
      refine ⟨?_, ?_, ?_⟩
      · simp [reads, bodiesOf, Reading.body?, hsource, hbody]
      · simpa [reads, Reading.Spelled] using hpath
      · simp [reads]
    · contradiction
  · rename_i hbody
    cases h
    refine ⟨?_, ?_, ?_⟩
    · simp [reads, bodiesOf, Reading.body?]
    · simp only [reads, List.mem_singleton, forall_eq, Reading.Spelled, String.toList_ofList]
      intro hhead
      cases htrim : trim body with
      | nil => simp [htrim] at hhead
      | cons c rest =>
        rw [htrim, List.head?_cons, Option.some.injEq] at hhead
        exact hbody rest (by rw [htrim, hhead])
    · simp [reads]

/-- A placeholder is taken up to its first closing brace. -/
theorem eq_append_of_placeholder {s rest : List Char} {e : Expr}
    (h : Parser.placeholder s = .ok e rest) :
    ∃ body, s = '$' :: '{' :: (body ++ '}' :: rest) ∧ (∀ c ∈ body, c ≠ '}') ∧
      Parser.placeholderOf? body = some e := by
  simp only [Parser.placeholder, Reader.bind_apply, Reader.run] at h
  split at h
  · rename_i u t htext
    split at h
    · rename_i c left hchar
      split at h
      · rename_i e' hbody
        cases h
        refine ⟨t.takeWhile (· != '}'), ?_, fun d hd ↦ ?_, hbody⟩
        · have hclosed : t.dropWhile (· != '}') = '}' :: rest := by
            simp only [Reader.char, Reader.satisfy] at hchar
            split at hchar
            · contradiction
            · rename_i d u hdrop
              split at hchar
              · rename_i hd
                cases hchar
                rw [hdrop, eq_of_beq hd]
              · contradiction
          rw [eq_append_of_text htext, ← hclosed, List.takeWhile_append_dropWhile]
          rfl
        · exact bne_iff_ne.mp (List.mem_takeWhile_imp (p := (· != '}')) hd)
      · contradiction
    · contradiction
    · contradiction
  · contradiction
  · contradiction

theorem placeholder : Spells [] Parser.placeholder reads := by
  apply intro
  intro s rest e h
  obtain ⟨body, rfl, hbody, he⟩ := eq_append_of_placeholder h
  obtain ⟨hbodies, hspelled, hfeature⟩ := reads_of_placeholderOf? he
  refine ⟨?_, ?_, hspelled, fun h ↦ absurd h hfeature⟩
  · exact ⟨'$' :: '{' :: (body ++ ['}']), by simp⟩
  · rw [Placeholder.bodies_placeholder hbody, hbodies, List.singleton_append]

/-! ## Lists, arguments and names -/

variable {nested : Reader Expr}

theorem readsOf_eq_flatMap (es : List Expr) : readsOf es = es.flatMap reads := by
  induction es with
  | nil => rfl
  | cons e es ih => rw [readsOf, ih, List.flatMap_cons]

theorem enclosed {α : Type} {opening closing : Char} {p : Reader α} {r : α → List Reading}
    (hopening : Placeholder.Neutral opening) (hclosing : Placeholder.Neutral closing)
    (hp : Spells [] p r) : Spells [] (Parser.enclosed opening closing p) r :=
  bind (symbol hopening) fun _ ↦ bind hp fun _ ↦ bind (symbol hclosing) fun _ ↦
    yield (by simp) (by simp)

theorem list (h : Spells [] nested reads) : Spells [] (Parser.list nested) readsOf := by
  have hitems := separated h (symbol (c := ',') (by decide))
  exact fun text s rest es hbefore hes ↦ readsOf_eq_flatMap es ▸ hitems hbefore hes

theorem arguments (h : Spells [] nested reads) : Spells [] (Parser.arguments nested) readsOf :=
  enclosed (by decide) (by decide) (list h)

/-- A call in a space reads what its arguments read, and a constant nothing. -/
theorem spaceMember (h : Spells [] nested reads) (space : String) :
    Spells [] (Parser.spaceMember nested space) reads := by
  refine bind (symbol (by decide)) fun _ ↦ bind name fun word ↦ ?_
  refine bind (attempt (arguments h)) fun args? ↦ ?_
  cases args? with
  | some args =>
    dsimp only
    split
    · exact yield (by simp [reads, ofOption]) (by simp [reads, ofOption])
    · exact fail
  | none =>
    dsimp only
    split
    · exact yield (by simp [reads]) (by simp [reads, ofOption])
    · exact fail

theorem reads_of_keyword? {word : String} {e : Expr} (h : Parser.keyword? word = some e) :
    e.reads = [] ∨ (word = "feature" ∧ e.reads = [.feature]) := by
  unfold Parser.keyword? at h
  split at h <;> cases h <;> simp [reads]

/-- A call reads what its arguments read, and a word alone the feature at most. -/
theorem named (h : Spells [] nested reads) : Spells [] (Parser.named nested) reads := by
  refine bind name fun word ↦ bind (attempt (arguments h)) fun args? ↦ ?_
  cases args? with
  | some args => exact yield (by simp [reads, ofOption]) (by simp [reads, ofOption])
  | none =>
    dsimp only
    split
    · intro text s rest e hbefore he
      exact ((spaceMember h word).frame hbefore he).weaken (by simp) (by simp [ofOption])
    · split
      · rename_i e hkeyword
        rcases reads_of_keyword? hkeyword with hnone | ⟨rfl, hfeature⟩
        · exact yield (by simp [hnone]) (by simp [hnone, ofOption])
        · exact yield (by simp [hfeature, readsOfWord]) (by simp [hfeature, ofOption]; rfl)
      · exact fail

/-! ## Operands -/

def readsOfSuffix : Parser.Suffix → List Reading
  | .member _ => []
  | .index key => key.reads
  | .method _ args => readsOf args

@[simp] theorem reads_attach (e : Expr) (suffix : Parser.Suffix) :
    (suffix.attach e).reads = e.reads ++ readsOfSuffix suffix := by
  cases suffix <;> simp [Parser.Suffix.attach, reads, readsOfSuffix]

theorem reads_foldl_attach (suffixes : List Parser.Suffix) (e : Expr) :
    (suffixes.foldl Parser.Suffix.attach e).reads = e.reads ++ suffixes.flatMap readsOfSuffix := by
  induction suffixes generalizing e with
  | nil => simp
  | cons suffix suffixes ih => rw [List.foldl_cons, ih, reads_attach, List.flatMap_cons,
      List.append_assoc]

/-- All alternatives of a primary expression are read along with the scan. -/
theorem primary (h : Spells [] nested reads) : Spells [] (Parser.primary nested) reads := by
  apply choice
  intro p hp
  simp only [List.mem_cons, List.not_mem_nil, or_false] at hp
  rcases hp with rfl | rfl | rfl | rfl | rfl | rfl
  · exact bind number fun _ ↦ yield (by simp [reads]) (by simp [reads])
  · exact bind string fun _ ↦ yield (by simp [reads]) (by simp [reads])
  · exact placeholder
  · apply bind (enclosed (by decide) (by decide) (list h))
    intro items
    exact yield (by simp [reads]) (by simp [reads])
  · exact enclosed (by decide) (by decide) h
  · exact named h

/-- A suffix reads what its key or its arguments read. -/
theorem suffix (h : Spells [] nested reads) : Spells [] (Parser.suffix nested) readsOfSuffix := by
  apply orElse
  · refine bind (symbol (by decide)) fun _ ↦ bind name fun word ↦ ?_
    refine bind (optional (arguments h)) fun args? ↦ ?_
    cases args? with
    | some args =>
      exact yield (by simp [readsOfSuffix, ofOption]) (by simp [readsOfSuffix, ofOption])
    | none => exact yield (by simp [readsOfSuffix]) (by simp [readsOfSuffix, ofOption])
  · apply bind (enclosed (by decide) (by decide) h)
    intro key
    exact yield (by simp [readsOfSuffix]) (by simp [readsOfSuffix])

theorem operand (h : Spells [] nested reads) : Spells [] (Parser.operand nested) reads := by
  refine bind (token (primary h)) fun e ↦ bind (many (suffix h)) fun suffixes ↦ ?_
  exact yield (by simp [reads_foldl_attach]) (by simp [reads_foldl_attach])

/-! ## Operators -/

theorem leadingOp : Spells [] Parser.leadingOp fun _ ↦ [] := by
  apply choice
  intro p hp
  simp only [List.mem_cons, List.not_mem_nil, or_false] at hp
  rcases hp with rfl | rfl | rfl <;>
    exact bind (symbol (by decide)) fun _ ↦ yield (by simp) (by simp)

/-- Signs make no readings, so the operand behind them decides. -/
theorem signed (h : Spells [] nested reads) : Spells [] (Parser.signed nested) reads := by
  apply intro
  intro s
  fun_induction Parser.signed nested s with
  | case1 s op t hop hlt ih =>
    intro rest e he
    obtain ⟨operand, hoperand, rfl⟩ := map_eq_ok.mp he
    exact (leadingOp.elim hop).trans (ih hoperand)
  | case2 => exact fun rest e he ↦ nomatch he
  | case3 s hmiss => exact fun rest e he ↦ (operand h).elim he
  | case4 => exact fun rest e he ↦ nomatch he

theorem neutral_of_symbol (op : BinaryOp) : ∀ c ∈ op.symbol.toList, Placeholder.Neutral c := by
  cases op <;> simp [BinaryOp.symbol, Placeholder.Neutral]

theorem operatorOf (ops : List BinaryOp) : Spells [] (Parser.operatorOf ops) fun _ ↦ [] := by
  refine token (choice fun p hp ↦ ?_)
  obtain ⟨op, -, rfl⟩ := List.mem_map.mp hp
  exact bind (text (neutral_of_symbol op)) fun _ ↦ yield (by simp) (by simp)

/-- Operators make no readings, and each operand adds its own behind those before. -/
theorem rowRest {operator : Reader BinaryOp} {tighter : Reader Expr}
    (hop : Spells [] operator fun _ ↦ []) (h : Spells [] tighter reads) (lhs : Expr) :
    Spells lhs.reads (Parser.rowRest operator tighter lhs) reads := by
  intro text s rest e hbefore he
  fun_induction Parser.rowRest operator tighter lhs s with
  | case1 lhs s hmiss =>
    cases he
    exact hbefore
  | case2 => contradiction
  | case3 => contradiction
  | case4 => contradiction
  | case5 lhs s op t hopt rhs left hrhs hlt ih =>
    apply ih _ he
    have hpair := (hbefore.trans (hop.elim hopt)).trans (h.elim hrhs)
    simpa [reads] using hpair
  | case6 => contradiction

theorem row (h : Spells [] nested reads) (levels : List (List BinaryOp)) :
    Spells [] (Parser.row nested levels) reads := by
  induction levels with
  | nil => exact signed h
  | cons ops tighter ih => exact bind ih fun lhs ↦ rowRest (operatorOf ops) ih lhs

theorem branches (h : Spells [] nested reads) :
    Spells [] (Parser.branches nested) fun pair ↦ pair.1.reads ++ pair.2.reads := by
  refine bind (symbol (by decide)) fun _ ↦ bind h fun consequent ↦ ?_
  refine bind (symbol (by decide)) fun _ ↦ bind h fun alternate ↦ ?_
  exact yield (by simp) (by simp)

theorem conditional (h : Spells [] nested reads) : Spells [] (Parser.conditional nested) reads := by
  refine bind (row h Parser.levels) fun test ↦ bind (optional (branches h)) fun pair? ↦ ?_
  cases pair? with
  | some pair => exact yield (by simp [reads, ofOption]) (by simp [reads, ofOption])
  | none => exact yield (by simp) (by simp [ofOption])

/-- By the recursion of the parser: nested expressions are read from less text. -/
theorem expression : Spells [] Parser.expression reads := by
  apply intro
  intro s
  fun_induction Parser.expression s with
  | case1 s ih =>
    intro rest e he
    refine (conditional (intro fun t rest e he ↦ ?_)).elim he
    split at he
    · rename_i hlt
      exact ih t hlt he
    · contradiction

end Spells

/-- The scan of the text of an expression finds the placeholders of the expression in their order,
and where the expression says `feature`, so does the text. -/
theorem passes_of_parse? {source : String} {e : Expr} (h : parse? source = some e) :
    Passes source.toList e.reads [] := by
  unfold parse? Reader.whole at h
  split at h
  · rename_i e' he
    cases h
    exact (Spells.token Spells.expression).elim he
  · contradiction

/-- The bodies that the scan finds in the text of an expression are those of its placeholders. -/
theorem bodies_of_parse? {source : String} {e : Expr} (h : parse? source = some e) :
    Placeholder.bodies source.toList = bodiesOf e.reads := by
  rw [(passes_of_parse? h).bodies, Placeholder.bodies, List.append_nil]

end MapStyle.Expr
