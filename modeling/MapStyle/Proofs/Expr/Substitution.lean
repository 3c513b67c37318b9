import Mathlib
import MapStyle.Proofs.Expr.Soundness
import MapStyle.Proofs.Placeholder.Expansion

/-!
# Defines and trees

The defines are replaced in the text of an expression before it is parsed. Where every defined text
is an expression, and the text of the expression is tidy, this is the same as to replace the
placeholders in the tree: the parentheses keep the inserted text together, whatever stands next to
it, and nothing is replaced inside it.
-/

namespace MapStyle.Expr

open Text Reader Placeholder

/-! ## Replacing placeholders in a tree -/

mutual

/-- The tree with every placeholder for which a tree is given replaced by it. A path goes by its
text. -/
def substitute (trees : String → Option Expr) : Expr → Expr
  | .literal value => .literal value
  | .placeholder name => (trees name).getD (.placeholder name)
  | .path p => (trees p.source).getD (.path p)
  | .feature => .feature
  | .array items => .array (substituteAll trees items)
  | .unary op operand => .unary op (substitute trees operand)
  | .binary op lhs rhs => .binary op (substitute trees lhs) (substitute trees rhs)
  | .conditional test consequent alternate =>
    .conditional (substitute trees test) (substitute trees consequent) (substitute trees alternate)
  | .member object key => .member (substitute trees object) (substitute trees key)
  | .call name args => .call name (substituteAll trees args)
  | .method object name args => .method (substitute trees object) name (substituteAll trees args)

/-- The list with the placeholders replaced in each of its trees. -/
def substituteAll (trees : String → Option Expr) : List Expr → List Expr
  | [] => []
  | e :: rest => substitute trees e :: substituteAll trees rest

end

def definedTrees (defines : Table String) (name : String) : Option Expr :=
  (Table.get? defines name).bind parse?

/-- Every defined text is an expression. -/
def DefinesExpressions (defines : Table String) : Prop :=
  ∀ name text, Table.get? defines name = some text → (parse? text).isSome

variable {defines : Table String} {s t s' t' cs rest : List Char} {e : Expr} {r : Rank}

/-! ## Replacing placeholders in a phrase -/

/-- How texts change from left to right, each with what stands behind it: of two texts next to each
other each changes for itself, and what holds no placeholder stays as it is. -/
structure Stepwise (change : (rest s s' : List Char) → Prop) : Prop where
  append {rest s s' t t' : List Char} (h : change (t ++ rest) s s') (h' : change rest t t') :
    change rest (s ++ t) (s' ++ t')
  neutral {cs : List Char} (rest : List Char) (h : ∀ c ∈ cs, Neutral c) : change rest cs cs
  string {quote : Char} {text chars : List Char} (rest : List Char) (hquote : IsQuote quote)
    (h : Quoted quote text chars) :
    change rest (quote :: (text ++ [quote])) (quote :: (text ++ [quote]))

namespace Stepwise

variable {change : (rest s s' : List Char) → Prop} (hchange : Stepwise change)

include hchange

theorem singleton {c : Char} (hc : Neutral c) : change rest [c] [c] :=
  hchange.neutral rest (by simpa using hc)

theorem cons {c : Char} (hc : Neutral c) (h : change rest s s') : change rest (c :: s) (c :: s') :=
  hchange.append (hchange.singleton hc) h

theorem of_blanks {b : List Char} (hb : Blanks b) : change rest b b :=
  hchange.neutral rest fun c hc ↦ neutral_of_class rfl rfl rfl c (hb c hc)

theorem of_isName (h : IsName cs) : change rest cs cs := by
  cases cs with
  | nil => exact h.elim
  | cons c cs =>
    have hc : Neutral c := neutral_of_class rfl rfl rfl c h.1
    have hcs : ∀ d ∈ cs, Neutral d := fun d hd ↦ neutral_of_class rfl rfl rfl d (h.2 d hd)
    exact hchange.cons hc (hchange.neutral rest hcs)

theorem of_unaryOp (op : UnaryOp) : change rest op.symbol.toList op.symbol.toList :=
  hchange.neutral rest (by cases op <;> simp [UnaryOp.symbol, Neutral])

theorem of_binaryOp (op : BinaryOp) : change rest op.symbol.toList op.symbol.toList :=
  hchange.neutral rest (Spells.neutral_of_symbol op)

end Stepwise

theorem neutral_of_isDigit {c : Char} (h : c.isDigit = true) : Neutral c :=
  neutral_of_class rfl rfl rfl c h

theorem Exponent.neutral (x : Exponent) : ∀ c ∈ x.text, Neutral c := by
  intro c hc
  simp only [Exponent.text, List.mem_cons, List.mem_append, Option.mem_toList] at hc
  rcases hc with rfl | hc | hc
  · rcases x.mark_eq with hmark | hmark <;> rw [hmark] <;> decide
  · rcases x.sign_eq c hc with rfl | rfl <;> decide
  · exact neutral_of_isDigit (x.isDigit_digits c hc)

/-- A numeral has no place for a placeholder. -/
theorem Numeral.neutral (n : Numeral) : ∀ c ∈ n.text, Neutral c := by
  intro c hc
  simp only [Numeral.text, Numeral.fractionText, Numeral.exponentText, List.mem_append] at hc
  rcases hc with hc | hc | hc
  · exact neutral_of_isDigit (n.isDigit_whole c hc)
  · cases hfraction : n.fraction with
    | none => simp [hfraction] at hc
    | some ds =>
      rw [hfraction, Option.elim_some] at hc
      rcases List.mem_cons.mp hc with rfl | hc
      · decide
      · exact neutral_of_isDigit (n.isDigit_fraction ds hfraction c hc)
  · cases hexponent : n.exponent with
    | none => simp [hexponent] at hc
    | some x =>
      rw [hexponent, Option.elim_some] at hc
      exact x.neutral c hc

/-! ## Phrases with the defines replaced -/

/-- Digits alone that stand for an operand were digits alone before. -/
def Rank.Keeps : Rank → List Char → List Char → Prop
  | .operand, s, s' => Whole s' → Whole s
  | .primary, s, s' => Whole s' → Whole s
  | _, _, _ => True

theorem keeps_of_mem {c : Char} (r : Rank) (hc : c ∈ s') (hblank : isTokenBlank c = false)
    (hdigit : c.isDigit = false) : r.Keeps s s' := by
  have hnot := not_whole_of_mem hc hblank hdigit
  cases r <;> first | trivial | exact fun hwhole ↦ absurd hwhole hnot

theorem keeps_self (r : Rank) (s : List Char) : r.Keeps s s := by
  cases r <;> first | trivial | exact id

theorem substitute_of_keyword? {name : String} (h : Parser.keyword? name = some e)
    (trees : String → Option Expr) : e.substitute trees = e := by
  unfold Parser.keyword? at h
  split at h <;> cases h <;> simp only [substitute]

theorem source_of_parse {source : String} {p : Path} (h : Path.parse source = .ok p) :
    p.source = source := by
  unfold Path.parse at h
  split at h
  · cases h
    rfl
  · contradiction

/-- A placeholder goes by its body. -/
theorem substitute_of_placeholderOf? {body : List Char} (h : Parser.placeholderOf? body = some e)
    (trees : String → Option Expr) :
    e.substitute trees = (trees (String.ofList (trim body))).getD e := by
  unfold Parser.placeholderOf? at h
  split at h
  · rename_i rest hbody
    split at h
    · rename_i p hp
      cases h
      rw [substitute, source_of_parse hp, hbody]
    · contradiction
  · cases h
    rw [substitute]

theorem mem_of_mem_trim {body : List Char} {c : Char} (h : c ∈ trim body) : c ∈ body := by
  rw [trim_eq_rdropWhile] at h
  exact (List.dropWhile_sublist isBlank).subset ((List.rdropWhile_prefix isBlank _).subset h)

theorem placeholderOf?_trim (body : List Char) :
    Parser.placeholderOf? (trim body) = Parser.placeholderOf? body := by
  unfold Parser.placeholderOf?
  rw [trim_trim]

/-- Whatever stands behind it, the text becomes a phrase of the tree with the placeholders
replaced. -/
def Changes (change : (rest s s' : List Char) → Prop) (trees : String → Option Expr) (r : Rank)
    (s : List Char) (e : Expr) : Prop :=
  ∀ rest, ∃ s', change rest s s' ∧ Phrase r s' (e.substitute trees) ∧ r.Keeps s s'

section Changes

variable {change : (rest s s' : List Char) → Prop} {trees : String → Option Expr}

/-- A phrase without any part of a placeholder stays as it is. -/
theorem changes_self (h : Phrase r s e) (he : e.substitute trees = e)
    (hs : ∀ rest, change rest s s) : Changes change trees r s e :=
  fun rest ↦ ⟨s, hs rest, he.symm ▸ h, keeps_self r s⟩

/-- A phrase of one rank that is one of another rank as well changes alike. -/
theorem Changes.imp {r' : Rank} {e' : Expr} (h : Changes change trees r s e)
    (hphrase : ∀ {s'}, Phrase r s' (e.substitute trees) → Phrase r' s' (e'.substitute trees))
    (hkeeps : ∀ s', r'.Keeps s s') : Changes change trees r' s e' := by
  intro rest
  obtain ⟨s', hs', hs, -⟩ := h rest
  exact ⟨s', hs', hphrase hs, hkeeps s'⟩

namespace Stepwise

variable (hchange : Stepwise change) {b b' b'' name u : List Char} {key : Expr}
  {es args : List Expr}

include hchange

/-! ### Operands without anything behind them -/

theorem changes_number (n : Numeral) :
    Changes change trees .primary n.text (.literal (.number n.value)) :=
  changes_self (.number n) rfl fun rest ↦ hchange.neutral rest n.neutral

theorem changes_string {quote : Char} (hquote : IsQuote quote) (h : Quoted quote s cs) :
    Changes change trees .primary (quote :: (s ++ [quote]))
      (.literal (.string (String.ofList cs))) :=
  changes_self (.string hquote h) rfl fun rest ↦ hchange.string rest hquote h

theorem changes_keyword {name : String} (h : Parser.keyword? name = some e) :
    Changes change trees .primary name.toList e :=
  changes_self (.keyword h) (substitute_of_keyword? h trees) fun _ ↦
    hchange.of_isName (Parser.isName_of_keyword? h).1

/-- A constant stays as it is. -/
theorem changes_constant {space name : String} {x : Float} (hb : Blanks b) (hb' : Blanks b')
    (h : Parser.constant? space name = some x) :
    Changes change trees .primary (space.toList ++ (b ++ '.' :: (b' ++ name.toList)))
      (.literal (.number x)) := by
  obtain ⟨hspace, hname⟩ := Parser.isName_of_constant? h
  refine changes_self (.constant hb hb' h) rfl fun rest ↦ ?_
  apply hchange.append (hchange.of_isName (Parser.isName_of_space hspace))
  apply hchange.append (hchange.of_blanks hb)
  apply hchange.cons (by decide)
  exact hchange.append (hchange.of_blanks hb') (hchange.of_isName hname)

/-- What stands in brackets changes between them. -/
theorem enclosed {opening closing : Char} (hopening : Neutral opening) (hclosing : Neutral closing)
    (h : change ([closing] ++ rest) s s') :
    change rest (opening :: (s ++ [closing])) (opening :: (s' ++ [closing])) :=
  hchange.cons hopening (hchange.append h (hchange.singleton hclosing))

theorem changes_array (h : Changes change trees .items s (.array es)) :
    Changes change trees .primary ('[' :: (s ++ [']'])) (.array es) := by
  intro rest
  obtain ⟨s', hs', hphrase, -⟩ := h _
  exact ⟨_, hchange.enclosed (by decide) (by decide) hs', .array hphrase,
    keeps_of_mem (c := '[') _ (by simp) rfl rfl⟩

theorem changes_parens (h : Changes change trees .expression s e) :
    Changes change trees .primary ('(' :: (s ++ [')'])) e := by
  intro rest
  obtain ⟨s', hs', hphrase, -⟩ := h _
  exact ⟨_, hchange.enclosed (by decide) (by decide) hs', .parens hphrase,
    keeps_of_mem (c := '(') _ (by simp) rfl rfl⟩

/-- A name with a list of items in parentheses behind it. -/
theorem called (hname : IsName name) (hb : Blanks b) (h : change ([')'] ++ rest) s s') :
    change rest (name ++ (b ++ '(' :: (s ++ [')']))) (name ++ (b ++ '(' :: (s' ++ [')']))) := by
  apply hchange.append (hchange.of_isName hname)
  apply hchange.append (hchange.of_blanks hb)
  exact hchange.enclosed (by decide) (by decide) h

theorem changes_call (hname : IsName name) (hb : Blanks b)
    (h : Changes change trees .items s (.array args)) :
    Changes change trees .primary (name ++ (b ++ '(' :: (s ++ [')'])))
      (.call (String.ofList name) args) := by
  intro rest
  obtain ⟨s', hs', hphrase, -⟩ := h _
  exact ⟨_, hchange.called hname hb hs', .call hname hb hphrase,
    keeps_of_mem (c := '(') _ (by simp) rfl rfl⟩

/-- The items of a call are changed, its name is not. -/
theorem changes_mathCall (hb : Blanks b) (hb' : Blanks b') (hname : IsName name)
    (hb'' : Blanks b'') (h : Changes change trees .items s (.array args)) :
    Changes change trees .primary
      ("Math".toList ++ (b ++ '.' :: (b' ++ (name ++ (b'' ++ '(' :: (s ++ [')']))))))
      (.call (String.ofList name) args) := by
  intro rest
  obtain ⟨s', hs', hphrase, -⟩ := h _
  refine ⟨_, ?_, .mathCall hb hb' hname hb'' hphrase, keeps_of_mem (c := '(') _ (by simp) rfl rfl⟩
  apply hchange.append (hchange.of_isName (by decide))
  apply hchange.append (hchange.of_blanks hb)
  apply hchange.cons (by decide)
  exact hchange.append (hchange.of_blanks hb') (hchange.called hname hb'' hs')

/-! ### Operands with what stands behind them -/

/-- The blanks around a number alone are in front of it, before and after. -/
theorem changes_operand (hb : Blanks b) (hb' : Blanks b')
    (h : Changes change trees .primary s e) :
    Changes change trees .operand (b ++ (s ++ b')) e := by
  intro rest
  obtain ⟨s', hs', hphrase, hkeeps⟩ := h _
  refine ⟨_, hchange.append (hchange.of_blanks hb) (hchange.append hs' (hchange.of_blanks hb')),
    .operand hb hphrase hb', fun hwhole ↦ ?_⟩
  rw [whole_append hb] at hwhole ⊢
  have hnil := eq_nil_of_whole_append hb' hwhole
  rw [hnil, List.append_nil] at hwhole ⊢
  exact hkeeps hwhole

/-- The object of a member is changed, the name behind the point is not. -/
theorem changes_member (h : Changes change trees .operand s e) (hpoint : ¬ Whole s)
    (hb : Blanks b) (hname : IsName name) (hb' : Blanks b') :
    Changes change trees .operand (s ++ '.' :: (b ++ (name ++ b')))
      (.member e (.literal (.string (String.ofList name)))) := by
  intro rest
  obtain ⟨s', hs', hphrase, hkeeps⟩ := h _
  refine ⟨_, ?_, .member hphrase (mt hkeeps hpoint) hb hname hb',
    keeps_of_mem (c := '.') _ (by simp) rfl rfl⟩
  apply hchange.append hs'
  apply hchange.cons (by decide)
  apply hchange.append (hchange.of_blanks hb)
  exact hchange.append (hchange.of_isName hname) (hchange.of_blanks hb')

/-- Both the object and the key of a member are changed. -/
theorem changes_index (h : Changes change trees .operand s e)
    (hkey : Changes change trees .expression t key) (hb : Blanks b) :
    Changes change trees .operand (s ++ '[' :: (t ++ ']' :: b)) (.member e key) := by
  intro rest
  obtain ⟨s', hs', hphrase, -⟩ := h _
  obtain ⟨t', ht', hkey, -⟩ := hkey _
  refine ⟨_, ?_, .index hphrase hkey hb, keeps_of_mem (c := '[') _ (by simp) rfl rfl⟩
  apply hchange.append hs'
  apply hchange.cons (by decide)
  exact hchange.append ht' (hchange.cons (by decide) (hchange.of_blanks hb))

/-- The object of a method and its items are changed, its name is not. -/
theorem changes_method (h : Changes change trees .operand s e) (hpoint : ¬ Whole s)
    (hb : Blanks b) (hname : IsName name) (hb' : Blanks b')
    (hargs : Changes change trees .items t (.array args)) (hb'' : Blanks b'') :
    Changes change trees .operand
      (s ++ '.' :: (b ++ (name ++ (b' ++ '(' :: (t ++ ')' :: b'')))))
      (.method e (String.ofList name) args) := by
  intro rest
  obtain ⟨s', hs', hphrase, hkeeps⟩ := h _
  obtain ⟨t', ht', hargs, -⟩ := hargs _
  refine ⟨_, ?_, .method hphrase (mt hkeeps hpoint) hb hname hb' hargs hb'',
    keeps_of_mem (c := '.') _ (by simp) rfl rfl⟩
  apply hchange.append hs'
  apply hchange.cons (by decide)
  apply hchange.append (hchange.of_blanks hb)
  apply hchange.append (hchange.of_isName hname)
  apply hchange.append (hchange.of_blanks hb')
  apply hchange.cons (by decide)
  exact hchange.append ht' (hchange.cons (by decide) (hchange.of_blanks hb''))

/-! ### Rows, expressions and items -/

theorem changes_unary (hb : Blanks b) (op : UnaryOp) (h : Changes change trees (.row []) s e) :
    Changes change trees (.row []) (b ++ (op.symbol.toList ++ s)) (.unary op e) := by
  intro rest
  obtain ⟨s', hs', hphrase, -⟩ := h _
  exact ⟨_, hchange.append (hchange.of_blanks hb) (hchange.append (hchange.of_unaryOp op) hs'),
    .unary hb op hphrase, trivial⟩

/-- Both operands are changed, and the operator stays between them. -/
theorem changes_binary {lhs rhs : Expr} {op : BinaryOp} {ops : List BinaryOp}
    {levels : List (List BinaryOp)} (hop : op ∈ ops)
    (hlhs : Changes change trees (.row (ops :: levels)) s lhs)
    (hrhs : Changes change trees (.row levels) t rhs) :
    Changes change trees (.row (ops :: levels)) (s ++ (op.symbol.toList ++ t))
      (.binary op lhs rhs) := by
  intro rest
  obtain ⟨s', hs', hleft, -⟩ := hlhs _
  obtain ⟨t', ht', hright, -⟩ := hrhs _
  exact ⟨_, hchange.append hs' (hchange.append (hchange.of_binaryOp op) ht'),
    .binary hop hleft hright, trivial⟩

/-- The test and the two branches are changed. -/
theorem changes_conditional {test consequent alternate : Expr}
    (htest : Changes change trees (.row Parser.levels) s test)
    (hconsequent : Changes change trees .expression t consequent)
    (halternate : Changes change trees .expression u alternate) :
    Changes change trees .expression (s ++ '?' :: (t ++ ':' :: u))
      (.conditional test consequent alternate) := by
  intro rest
  obtain ⟨s', hs', htest, -⟩ := htest _
  obtain ⟨t', ht', hconsequent, -⟩ := hconsequent _
  obtain ⟨u', hu', halternate, -⟩ := halternate _
  refine ⟨_, ?_, .conditional htest hconsequent halternate, trivial⟩
  apply hchange.append hs'
  apply hchange.cons (by decide)
  exact hchange.append ht' (hchange.cons (by decide) hu')

theorem changes_moreItems {next : Expr} (h : Changes change trees .expression s e)
    (hrest : Changes change trees .items t (.array (next :: es))) :
    Changes change trees .items (s ++ ',' :: t) (.array (e :: next :: es)) := by
  intro rest
  obtain ⟨s', hs', hphrase, -⟩ := h _
  obtain ⟨t', ht', hitems, -⟩ := hrest _
  exact ⟨_, hchange.append hs' (hchange.cons (by decide) ht'), .moreItems hphrase hitems, trivial⟩

end Stepwise

/-- Where the placeholders of a phrase become phrases of the trees that they are replaced by, the
whole becomes a phrase of its tree with the placeholders replaced. -/
theorem Phrase.changes (hchange : Stepwise change)
    (hplaceholder : ∀ {body : List Char} {e : Expr}, (∀ c ∈ body, c ≠ '}') →
      Parser.placeholderOf? body = some e →
      Changes change trees .primary ('$' :: '{' :: (body ++ ['}'])) e)
    (h : Phrase r s e) : Changes change trees r s e := by
  induction h with
  | number n => exact hchange.changes_number n
  | string hquote h => exact hchange.changes_string hquote h
  | placeholder hbody h => exact hplaceholder hbody h
  | array _ ih => exact hchange.changes_array ih
  | parens _ ih => exact hchange.changes_parens ih
  | keyword h => exact hchange.changes_keyword h
  | constant hb hb' h => exact hchange.changes_constant hb hb' h
  | call hname hb _ ih => exact hchange.changes_call hname hb ih
  | mathCall hb hb' hname hb'' _ ih => exact hchange.changes_mathCall hb hb' hname hb'' ih
  | operand hb _ hb' ih => exact hchange.changes_operand hb hb' ih
  | member _ hpoint hb hname hb' ih => exact hchange.changes_member ih hpoint hb hname hb'
  | index _ _ hb ih ihkey => exact hchange.changes_index ih ihkey hb
  | method _ hpoint hb hname hb' _ hb'' ih ihargs =>
    exact hchange.changes_method ih hpoint hb hname hb' ihargs hb''
  | unsigned _ ih => exact ih.imp .unsigned fun _ ↦ trivial
  | unary hb op _ ih => exact hchange.changes_unary hb op ih
  | tighter ops _ ih => exact ih.imp (.tighter ops) fun _ ↦ trivial
  | binary hop _ _ ihl ihr => exact hchange.changes_binary hop ihl ihr
  | row _ ih => exact ih.imp .row fun _ ↦ trivial
  | conditional _ _ _ iht ihc iha => exact hchange.changes_conditional iht ihc iha
  | noItems hb => exact changes_self (.noItems hb) rfl fun _ ↦ hchange.of_blanks hb
  | item _ ih => exact ih.imp .item fun _ ↦ trivial
  | moreItems _ _ ih ihrest => exact hchange.changes_moreItems ih ihrest

end Changes

/-! ## Replacing the defines in a tidy text -/

/-- Where the text stands at the front of a tidy one, its expansion is the other text. -/
def Expands (defines : Table String) (s s' : List Char) : Prop :=
  ∀ rest, Tidy (s ++ rest) → Tidy rest ∧ expand defines (s ++ rest) = s' ++ expand defines rest

/-- The text of a string is left as it is. -/
theorem inQuotes_of_quoted {quote : Char} {text chars : List Char} (hquote : quote ≠ '\\')
    (h : Quoted quote text chars) (rest : List Char) :
    inQuotes quote (text ++ quote :: rest) = text := by
  induction h with
  | nil => cases rest <;> simp [inQuotes]
  | @plain c text chars hc hbackslash h ih =>
    obtain ⟨d, t, ht⟩ : ∃ d t, text ++ quote :: rest = d :: t :=
      List.exists_cons_of_ne_nil (by simp)
    rw [List.cons_append, ht, inQuotes, if_neg hc, if_neg hbackslash, ← ht, ih]
  | escaped c h ih =>
    rw [List.cons_append, List.cons_append, inQuotes, if_neg (Ne.symm hquote), if_pos rfl, ih]

/-- A string of a tidy text has no placeholder in it, and stays as it is. -/
theorem Expands.string {quote : Char} {text chars : List Char} (hquote : IsQuote quote)
    (h : Quoted quote text chars) :
    Expands defines (quote :: (text ++ [quote])) (quote :: (text ++ [quote])) := by
  intro rest htidy
  have hbackslash : quote ≠ '\\' := by rcases hquote with rfl | rfl <;> decide
  have hdollar : quote ≠ '$' := by rcases hquote with rfl | rfl <;> decide
  have hafter : afterQuote quote (text ++ quote :: rest) = rest :=
    (Spells.afterQuote_of_stringRest (Parser.stringRest_append hbackslash h rest)).1
  rw [List.cons_append, List.append_assoc, List.singleton_append] at htidy ⊢
  rw [tidy_quote hquote, inQuotes_of_quoted hbackslash h, hafter] at htidy
  refine ⟨htidy.2, ?_⟩
  have hhead : (quote :: rest).head? ≠ some '{' := by
    rcases hquote with rfl | rfl <;> simp
  rw [expand_cons fun hc ↦ absurd hc hdollar, expand_append_of_no_opening htidy.1 hhead,
    expand_cons fun hc ↦ absurd hc hdollar]
  simp

theorem stepwise_expands : Stepwise fun _ ↦ Expands defines where
  append h h' rest htidy := by
    rw [List.append_assoc] at htidy ⊢
    obtain ⟨hnext, hs⟩ := h _ htidy
    obtain ⟨hrest, ht⟩ := h' rest hnext
    exact ⟨hrest, by rw [hs, ht, List.append_assoc]⟩
  neutral _ h rest htidy := ⟨(tidy_append_of_neutral h).mp htidy, expand_append_of_neutral h rest⟩
  string _ hquote h := .string hquote h

/-- What a placeholder is replaced by denotes the tree that its tree is replaced by. -/
theorem changes_placeholder (hdefines : DefinesExpressions defines) {body : List Char}
    (hbody : ∀ c ∈ body, c ≠ '}') (h : Parser.placeholderOf? body = some e) :
    Changes (fun _ ↦ Expands defines) (definedTrees defines) .primary
      ('$' :: '{' :: (body ++ ['}'])) e := by
  have hexpands : Expands defines ('$' :: '{' :: (body ++ ['}']))
      (expansion defines (trim body)) := by
    intro rest htidy
    rw [List.cons_append, List.cons_append, List.append_assoc, List.singleton_append] at htidy ⊢
    obtain ⟨htrim, hrest⟩ := (tidy_placeholder hbody).mp htidy
    rw [expand_placeholder hbody, htrim]
    exact ⟨hrest, rfl⟩
  have hkeeps : Rank.primary.Keeps ('$' :: '{' :: (body ++ ['}']))
      (expansion defines (trim body)) := by
    unfold expansion
    split
    · exact keeps_of_mem (c := '(') _ (by simp) rfl rfl
    · exact keeps_of_mem (c := '$') _ (by simp) rfl rfl
  refine fun _ ↦ ⟨_, hexpands, ?_, hkeeps⟩
  rw [substitute_of_placeholderOf? h, definedTrees]
  cases htext : Table.get? defines (String.ofList (trim body)) with
  | some text =>
    obtain ⟨tree, htree⟩ := Option.isSome_iff_exists.mp (hdefines _ text htext)
    rw [Option.bind_some, htree, Option.getD_some, expansion, htext]
    exact .parens (parse?_eq_some_iff.mp htree)
  | none =>
    rw [Option.bind_none, Option.getD_none, expansion, htext]
    rw [← placeholderOf?_trim] at h
    exact .placeholder (fun c hc ↦ hbody c (mem_of_mem_trim hc)) h

/-- Replacing the defines in the text of an expression replaces the placeholders in its tree, all at
once: what is inserted is not searched again. -/
theorem parse?_replaceDefines {source : String} (h : parse? source = some e)
    (htidy : Tidy source.toList) (hdefines : DefinesExpressions defines) :
    parse? (replaceDefines (some defines) source)
      = some (e.substitute (definedTrees defines)) := by
  obtain ⟨s', hs', hphrase, -⟩ :=
    (parse?_eq_some_iff.mp h).changes stepwise_expands (changes_placeholder hdefines) []
  have hexpand := (hs' [] (by rwa [List.append_nil])).2
  rw [List.append_nil, expand, List.append_nil] at hexpand
  refine parse?_of_phrase ?_
  rw [replaceDefines, String.toList_ofList, hexpand]
  exact hphrase

theorem parse?_replaceDefines_size :
    parse? (replaceDefines (some [("size", "$\x7bsize\x7d + '\x7d'")])
        "-$\x7bsize\x7d * $\x7bwidth\x7d")
      = some (.binary .mul
          (.unary .negate (.binary .add (.placeholder "size") (.literal (.string "\x7d"))))
          (.placeholder "width")) := by
  have htext : parse? "$\x7bsize\x7d + '\x7d'"
      = some (.binary .add (.placeholder "size") (.literal (.string "\x7d"))) := by
    cbv
  have hsource : parse? "-$\x7bsize\x7d * $\x7bwidth\x7d"
      = some (.binary .mul (.unary .negate (.placeholder "size")) (.placeholder "width")) := by
    cbv
  have hdefines : DefinesExpressions [("size", "$\x7bsize\x7d + '\x7d'")] := by
    intro name text hname
    simp only [Table.get?, Option.ite_none_right_eq_some, Option.some.injEq] at hname
    rw [← hname.2, htext]
    rfl
  have htidy : Tidy "-$\x7bsize\x7d * $\x7bwidth\x7d".toList := by
    change Tidy ('-' :: '$' :: '{' :: ("size".toList ++ '}' :: (" * ".toList ++
      '$' :: '{' :: ("width".toList ++ ['}']))))
    have hbody : ∀ body : List Char, '}' ∉ body → ∀ c ∈ body, c ≠ '}' :=
      fun body hbrace c hc ↦ ne_of_mem_of_not_mem hc hbrace
    rw [tidy_cons_of_neutral (by decide), tidy_placeholder (hbody _ (by decide)),
      tidy_append_of_neutral (by simp [Neutral]), tidy_placeholder (hbody _ (by decide)), Tidy]
    decide
  have htree : definedTrees [("size", "$\x7bsize\x7d + '\x7d'")] "size"
      = some (.binary .add (.placeholder "size") (.literal (.string "\x7d"))) := by
    rw [definedTrees, Table.get?, if_pos rfl, Option.bind_some, htext]
  have hwidth : definedTrees [("size", "$\x7bsize\x7d + '\x7d'")] "width" = none := rfl
  rw [parse?_replaceDefines hsource htidy hdefines]
  simp only [substitute, htree, hwidth, Option.getD_some, Option.getD_none]

end MapStyle.Expr
