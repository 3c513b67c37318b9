import Mathlib.Tactic.IntervalCases
import MapStyle.Proofs.Expr.Nesting
import MapStyle.Proofs.Expr.Token

/-!
# Readers of the grammar at a token

What each reader of the grammar does on a text that begins with a given token. A reader that begins
with another token does not apply there; one that begins with this token reads on. All readers that
may stand behind a token are steady: blanks in front of their text make no difference.
-/

namespace MapStyle.Expr.Parser

open Text Reader

variable {α : Type} {nested : Reader Expr} {s t rest : List Char} {c : Char} {e : Expr}

/-! ## Readers that do not apply -/

theorem stops_cons {accept : Char → Bool} (h : accept c = false) (s : List Char) :
    Stops accept (c :: s) := by
  intro d hd
  cases hd
  exact h

theorem number_miss (hdigit : Stops Char.isDigit s) (hpoint : s.head? ≠ some '.') :
    number s = .miss := by
  refine bind_of_miss ?_
  rw [mantissa, orElse_of_miss (bind_of_miss (digits_miss hdigit))]
  exact bind_of_miss (char_miss hpoint)

theorem string_miss (h : ∀ c ∈ s.head?, ¬ IsQuote c) : string s = .miss := by
  refine bind_of_miss (satisfy_miss fun c hc ↦ ?_)
  have hquote := h c hc
  simp only [IsQuote, not_or] at hquote
  simp [hquote.1, hquote.2]

theorem placeholder_miss (h : s.head? ≠ some '$') : placeholder s = .miss :=
  bind_of_miss (text_miss (by simp) (by simpa using h))

theorem enclosed_miss {opening closing : Char} {p : Reader α}
    (h : (s.dropWhile isTokenBlank).head? ≠ some opening) : enclosed opening closing p s = .miss :=
  bind_of_miss (symbol_miss h)

theorem named_miss (h : Stops isNameStart s) : named nested s = .miss :=
  bind_of_miss (bind_of_miss (satisfy_miss h))

/-- No sign is read where the first character behind the blanks is none. -/
theorem leadingOp_miss (h : ∀ c ∈ (s.dropWhile isTokenBlank).head?, c ≠ '!' ∧ c ≠ '-' ∧ c ≠ '+') :
    leadingOp s = .miss := by
  have hmiss : ∀ d, d = '!' ∨ d = '-' ∨ d = '+' → symbol d s = .miss := by
    intro d hd
    refine symbol_miss fun hhead ↦ ?_
    obtain ⟨hnot, hminus, hplus⟩ := h d hhead
    rcases hd with rfl | rfl | rfl <;> contradiction
  rw [leadingOp, choice, orElse_of_miss (bind_of_miss (hmiss _ (by simp))), choice,
    orElse_of_miss (bind_of_miss (hmiss _ (by simp))), choice,
    orElse_of_miss (bind_of_miss (hmiss _ (by simp)))]
  rfl

theorem suffix_miss (hpoint : (s.dropWhile isTokenBlank).head? ≠ some '.')
    (hbracket : (s.dropWhile isTokenBlank).head? ≠ some '[') : suffix nested s = .miss := by
  rw [suffix, orElse_of_miss (bind_of_miss (symbol_miss hpoint))]
  exact bind_of_miss (enclosed_miss hbracket)

/-- No operator of the level is read where none of them begins like the text behind the blanks. -/
theorem operatorOf_miss {ops : List BinaryOp}
    (h : ∀ op ∈ ops, (s.dropWhile isTokenBlank).head? ≠ op.symbol.toList.head?) :
    operatorOf ops s = .miss := by
  rw [operatorOf, token_eq]
  suffices hchoice : choice (ops.map fun op ↦ do
      Reader.text op.symbol.toList
      yield op) (s.dropWhile isTokenBlank) = .miss by
    rw [hchoice]
    rfl
  induction ops with
  | nil => rfl
  | cons op ops ih =>
    have hne : op.symbol.toList ≠ [] := by cases op <;> simp [BinaryOp.symbol]
    rw [List.map_cons, choice, orElse_of_miss (bind_of_miss (text_miss hne (h op (by simp))))]
    exact ih fun op' hop' ↦ h op' (by simp [hop'])

/-! ## Operands by their first character -/

theorem primary_of_number {x : Float} (h : number s = .ok x rest) :
    primary nested s = .ok (.literal (.number x)) rest := by
  apply orElse_of_ok
  rw [bind_of_ok h]
  rfl

/-- Numbers do not begin with a quote, so a string is read as one. -/
theorem primary_of_string {word : String} (hquote : IsQuote c)
    (h : string (c :: s) = .ok word rest) :
    primary nested (c :: s) = .ok (.literal (.string word)) rest := by
  have hnumber : number (c :: s) = .miss := by
    rcases hquote with rfl | rfl <;> exact number_miss (stops_cons rfl s) (by simp)
  rw [primary, choice, orElse_of_miss (bind_of_miss hnumber)]
  apply orElse_of_ok
  rw [bind_of_ok h]
  rfl

/-- A first character that is no digit, point or quote leaves the readers behind those of numbers
and of strings. -/
theorem primary_of_symbol (hdigit : c.isDigit = false) (hpoint : c ≠ '.') (hquote : ¬ IsQuote c)
    (s : List Char) :
    primary nested (c :: s) = choice [placeholder,
      do let items ← enclosed '[' ']' (list nested); yield (.array items),
      enclosed '(' ')' nested, named nested] (c :: s) := by
  rw [primary, choice, orElse_of_miss (bind_of_miss (number_miss (stops_cons hdigit s) _)), choice,
    orElse_of_miss (bind_of_miss (string_miss _))]
  · intro d hd
    cases hd
    exact hquote
  · simpa using hpoint

theorem primary_of_placeholder (h : placeholder ('$' :: s) = .ok e rest) :
    primary nested ('$' :: s) = .ok e rest := by
  rw [primary_of_symbol rfl (by decide) (by simp [IsQuote])]
  exact orElse_of_ok h

theorem primary_of_bracket {es : List Expr}
    (h : enclosed '[' ']' (list nested) ('[' :: s) = .ok es rest) :
    primary nested ('[' :: s) = .ok (.array es) rest := by
  rw [primary_of_symbol rfl (by decide) (by simp [IsQuote]), choice,
    orElse_of_miss (placeholder_miss (by simp))]
  apply orElse_of_ok
  rw [bind_of_ok h]
  rfl

theorem primary_of_paren (h : enclosed '(' ')' nested ('(' :: s) = .ok e rest) :
    primary nested ('(' :: s) = .ok e rest := by
  rw [primary_of_symbol rfl (by decide) (by simp [IsQuote]), choice,
    orElse_of_miss (placeholder_miss (by simp)), choice,
    orElse_of_miss (bind_of_miss (enclosed_miss _))]
  · exact orElse_of_ok h
  · rw [dropWhile_blank_cons rfl]
    simp

theorem not_isNameStart_of_isDigit (h : c.isDigit = true) : isNameStart c = false := by
  obtain ⟨hlow, hhigh⟩ := Char.isDigit_iff_toNat.mp h
  rw [← Char.ofNat_toNat c]
  generalize c.toNat = n at hlow hhigh ⊢
  change 48 ≤ n at hlow
  change n ≤ 57 at hhigh
  interval_cases n <;> rfl

theorem not_isTokenBlank_of_isNameStart (h : isNameStart c = true) : isTokenBlank c = false := by
  by_contra hblank
  simp only [isTokenBlank, Bool.not_eq_false, Bool.or_eq_true, decide_eq_true_eq] at hblank
  rcases hblank with ((rfl | rfl) | rfl) | rfl <;> contradiction

/-- No alternative before the last begins with a name. -/
theorem primary_of_named {cs : List Char} (hname : IsName cs)
    (h : named nested (cs ++ s) = .ok e rest) : primary nested (cs ++ s) = .ok e rest := by
  obtain ⟨c, t, rfl, hc⟩ : ∃ c t, cs = c :: t ∧ isNameStart c = true := by
    cases cs with
    | nil => exact hname.elim
    | cons c cs => exact ⟨c, cs, rfl, hname.1⟩
  have hne : ∀ d, isNameStart d = false → c ≠ d := by
    rintro d hd rfl
    rw [hd] at hc
    contradiction
  have hdigit : c.isDigit = false := by
    by_contra hdigit
    exact hne c (not_isNameStart_of_isDigit (by simpa using hdigit)) rfl
  have hquote : ¬ IsQuote c := fun h ↦ h.elim (hne _ rfl) (hne _ rfl)
  have hopening : ∀ d, isNameStart d = false →
      ((c :: (t ++ s)).dropWhile isTokenBlank).head? ≠ some d := by
    intro d hd
    rw [dropWhile_blank_cons (not_isTokenBlank_of_isNameStart hc)]
    simpa using hne d hd
  rw [List.cons_append, primary_of_symbol hdigit (hne _ rfl) hquote, choice,
    orElse_of_miss (placeholder_miss (by simpa using hne _ rfl)), choice,
    orElse_of_miss (bind_of_miss (enclosed_miss (hopening _ rfl))), choice,
    orElse_of_miss (enclosed_miss (hopening _ rfl))]
  exact orElse_of_ok h

/-- No operand begins with another symbol. -/
theorem primary_miss (hdigit : c.isDigit = false) (hstart : isNameStart c = false)
    (hblank : isTokenBlank c = false) (hquote : ¬ IsQuote c) (hsymbol : c ∉ ['.', '$', '[', '('])
    (s : List Char) : primary nested (c :: s) = .miss := by
  simp only [List.mem_cons, List.not_mem_nil, or_false, not_or] at hsymbol
  obtain ⟨hpoint, hdollar, hbracket, hparen⟩ := hsymbol
  have hopening : ∀ d, c ≠ d → ((c :: s).dropWhile isTokenBlank).head? ≠ some d := by
    intro d hd
    rw [dropWhile_blank_cons hblank]
    simpa using hd
  rw [primary_of_symbol hdigit hpoint hquote, choice,
    orElse_of_miss (placeholder_miss (by simpa using hdollar)), choice,
    orElse_of_miss (bind_of_miss (enclosed_miss (hopening _ hbracket))), choice,
    orElse_of_miss (enclosed_miss (hopening _ hparen)), choice,
    orElse_of_miss (named_miss (stops_cons hstart s))]
  rfl

/-! ## Brackets and lists -/

theorem enclosed_of_reads {opening closing : Char} {p : Reader α} {a : α}
    (hopening : isTokenBlank opening = false) (hclosing : isTokenBlank closing = false)
    (hp : Lax p) (h : Reads p s a (closing :: rest)) :
    enclosed opening closing p (opening :: s) = .ok a (rest.dropWhile isTokenBlank) := by
  have hclose : Steady (symbol closing >>= fun _ ↦ yield a) := (Steady.symbol closing).bind _
  rw [enclosed, bind_of_ok (symbol_cons hopening s), (h.of_lax hp).bind hclose,
    bind_of_ok (symbol_cons hclosing rest)]
  rfl

/-- A list of one item ends where no comma follows. -/
theorem list_of_item {left : List Char} (h : nested s = .ok e left)
    (hcomma : (left.dropWhile isTokenBlank).head? ≠ some ',') :
    list nested s = .ok [e] left := by
  rw [list, separated_of_ok h, many_of_miss (bind_of_miss (symbol_miss hcomma))]
  rfl

/-- Behind an item and a comma the items that follow are read. -/
theorem list_of_items {es : List Expr} {next : Expr} (hsteady : Steady nested)
    (hshrinking : Shrinking nested) (h : Reads nested s e (',' :: t))
    (hrest : list nested t = .ok (next :: es) rest) :
    list nested s = .ok (e :: next :: es) rest := by
  obtain ⟨left, hleft, hblank⟩ := h.exists
  rw [dropWhile_blank_cons rfl] at hblank
  rcases separated_eq_ok hrest with ⟨hnil, -, -⟩ | ⟨e', es', t', hes, hnext, hmany⟩
  · contradiction
  · cases hes
    have hitem : (symbol ',' >>= fun _ ↦ nested) left = .ok next t' := by
      rw [bind_of_ok (symbol_of_dropWhile rfl hblank), hsteady t, hnext]
    have hlt : t'.length < left.length := by
      have hle := length_dropWhile_blank_le left
      have hshorter := hshrinking hnext
      rw [hblank, List.length_cons] at hle
      omega
    rw [list, separated_of_ok hleft, many_of_ok hitem hlt, hmany]
    rfl

variable {b b' cs : List Char}

theorem arguments_of_reads {args : List Expr} (hb : Blanks b) (hsteady : Steady nested)
    (h : Reads (list nested) s args (')' :: rest)) :
    arguments nested (b ++ '(' :: s) = .ok args (rest.dropWhile isTokenBlank) := by
  have harguments : Steady (arguments nested) := (Steady.symbol '(').bind _
  rw [harguments.append hb]
  exact enclosed_of_reads rfl rfl hsteady.lax_separated h

theorem arguments_miss (h : (s.dropWhile isTokenBlank).head? ≠ some '(') :
    arguments nested s = .miss :=
  enclosed_miss h

/-! ## Names -/

theorem not_isNamePart_of_isTokenBlank (h : isTokenBlank c = true) : isNamePart c = false := by
  simp only [isTokenBlank, Bool.or_eq_true, decide_eq_true_eq] at h
  rcases h with ((rfl | rfl) | rfl) | rfl <;> rfl

/-- A name ends at a blank, and elsewhere at the first character of the next token. -/
theorem stops_of_dropWhile
    (h : ∀ c ∈ (s.dropWhile isTokenBlank).head?, isNamePart c = false) : Stops isNamePart s := by
  intro c hc
  obtain ⟨t, rfl⟩ := List.head?_eq_some_iff.mp hc
  by_cases hblank : isTokenBlank c = true
  · exact not_isNamePart_of_isTokenBlank hblank
  · rw [dropWhile_blank_cons (by simpa using hblank)] at h
    exact h c rfl

/-- A name ends in front of blanks and a symbol. -/
theorem name_append_symbol (hname : IsName cs) (hb : Blanks b) (hc : isNamePart c = false)
    (hblank : isTokenBlank c = false) (s : List Char) :
    Reader.name (cs ++ (b ++ c :: s)) = .ok (String.ofList cs) (b ++ c :: s) := by
  refine name_append hname (stops_of_dropWhile ?_)
  rw [hb.dropWhile_append, dropWhile_blank_cons hblank]
  intro d hd
  cases hd
  exact hc

theorem named_of_call {args : List Expr} (hname : IsName cs) (hb : Blanks b)
    (hsteady : Steady nested) (h : Reads (list nested) s args (')' :: rest)) :
    named nested (cs ++ (b ++ '(' :: s))
      = .ok (.call (String.ofList cs) args) (rest.dropWhile isTokenBlank) := by
  rw [named, bind_of_ok (name_append_symbol hname hb rfl rfl s),
    bind_of_ok (attempt_of_ok (arguments_of_reads hb hsteady h))]
  rfl

/-- What stands behind a word is no part of it, and no call of it. -/
def EndsWord (rest : List Char) : Prop :=
  ∀ c ∈ (rest.dropWhile isTokenBlank).head?, isNamePart c = false ∧ c ≠ '('

theorem EndsWord.name_append (h : EndsWord rest) (hname : IsName cs) :
    Reader.name (cs ++ rest) = .ok (String.ofList cs) rest :=
  Parser.name_append hname (stops_of_dropWhile fun c hc ↦ (h c hc).1)

theorem EndsWord.arguments_miss (h : EndsWord rest) : arguments nested rest = .miss :=
  Parser.arguments_miss fun hhead ↦ (h '(' hhead).2 rfl

theorem EndsWord.append (h : EndsWord rest) (hb : Blanks b) : EndsWord (b ++ rest) := by
  rw [EndsWord, hb.dropWhile_append]
  exact h

theorem endsWord_cons {c : Char} (hblank : isTokenBlank c = false) (hpart : isNamePart c = false)
    (hparen : c ≠ '(') (s : List Char) : EndsWord (c :: s) := by
  rw [EndsWord, dropWhile_blank_cons hblank]
  intro d hd
  cases hd
  exact ⟨hpart, hparen⟩

theorem isName_of_keyword? {word : String} (h : keyword? word = some e) :
    IsName word.toList ∧ word ≠ "Math" ∧ word ≠ "Number" := by
  unfold keyword? at h
  split at h <;> first | contradiction | decide

theorem named_of_keyword {word : String} (hword : keyword? word = some e) (h : EndsWord rest) :
    named nested (word.toList ++ rest) = .ok e rest := by
  obtain ⟨hname, hmath, hnumber⟩ := isName_of_keyword? hword
  rw [named, bind_of_ok (h.name_append hname), bind_of_ok (attempt_of_miss h.arguments_miss),
    String.ofList_toList]
  dsimp only
  rw [if_neg (by simp [hmath, hnumber]), hword]
  rfl

theorem isName_of_constant? {space word : String} {x : Float} (h : constant? space word = some x) :
    (space = "Math" ∨ space = "Number") ∧ IsName word.toList := by
  unfold constant? at h
  split at h <;> first | contradiction | (constructor <;> decide)

theorem isName_of_space {space : String} (h : space = "Math" ∨ space = "Number") :
    IsName space.toList := by
  rcases h with rfl | rfl <;> decide

/-- Behind `Math` and `Number` stands the name of a member. -/
theorem named_of_space {space : String} (hspace : space = "Math" ∨ space = "Number")
    (hb : Blanks b) (s : List Char) :
    named nested (space.toList ++ (b ++ '.' :: s)) = spaceMember nested space ('.' :: s) := by
  have hname := isName_of_space hspace
  have hmiss : arguments nested (b ++ '.' :: s) = .miss := by
    refine arguments_miss ?_
    rw [hb.dropWhile_append, dropWhile_blank_cons rfl]
    simp
  have hsteady : Steady (spaceMember nested space) := (Steady.symbol '.').bind _
  rw [named, bind_of_ok (name_append_symbol hname hb rfl rfl s), bind_of_ok (attempt_of_miss hmiss),
    String.ofList_toList]
  dsimp only
  rw [if_pos (by simpa using hspace), hsteady.append hb]

theorem dropWhile_blank_name (hname : IsName cs) (s : List Char) :
    (cs ++ s).dropWhile isTokenBlank = cs ++ s := by
  cases cs with
  | nil => exact hname.elim
  | cons c cs => exact dropWhile_blank_cons (not_isTokenBlank_of_isNameStart hname.1) _

/-- A constant is read where its name ends and no call opens. -/
theorem spaceMember_of_constant {space word : String} {x : Float} (hb : Blanks b)
    (h : constant? space word = some x) (hrest : EndsWord rest) :
    spaceMember nested space ('.' :: (b ++ (word.toList ++ rest)))
      = .ok (.literal (.number x)) rest := by
  have hname := (isName_of_constant? h).2
  rw [spaceMember, bind_of_ok (symbol_cons rfl _), hb.dropWhile_append, dropWhile_blank_name hname,
    bind_of_ok (hrest.name_append hname), bind_of_ok (attempt_of_miss hrest.arguments_miss),
    String.ofList_toList]
  dsimp only
  rw [h]
  rfl

theorem spaceMember_of_call {args : List Expr} (hb : Blanks b) (hname : IsName cs)
    (hb' : Blanks b') (hsteady : Steady nested) (h : Reads (list nested) s args (')' :: rest)) :
    spaceMember nested "Math" ('.' :: (b ++ (cs ++ (b' ++ '(' :: s))))
      = .ok (.call (String.ofList cs) args) (rest.dropWhile isTokenBlank) := by
  rw [spaceMember, bind_of_ok (symbol_cons rfl _), hb.dropWhile_append, dropWhile_blank_name hname,
    bind_of_ok (name_append_symbol hname hb' rfl rfl s),
    bind_of_ok (attempt_of_ok (arguments_of_reads hb' hsteady h))]
  rfl

/-! ## What stands behind an operand -/

theorem suffix_of_member (hb : Blanks b) (hname : IsName cs) (hrest : EndsWord rest) :
    suffix nested ('.' :: (b ++ (cs ++ rest))) = .ok (.member (String.ofList cs)) rest := by
  apply orElse_of_ok
  rw [bind_of_ok (symbol_cons rfl _), hb.dropWhile_append, dropWhile_blank_name hname,
    bind_of_ok (hrest.name_append hname), bind_of_ok (optional_of_miss hrest.arguments_miss)]
  rfl

/-- A point, a name and items in parentheses make a method. -/
theorem suffix_of_method {args : List Expr} (hb : Blanks b) (hname : IsName cs) (hb' : Blanks b')
    (hsteady : Steady nested) (h : Reads (list nested) s args (')' :: rest)) :
    suffix nested ('.' :: (b ++ (cs ++ (b' ++ '(' :: s))))
      = .ok (.method (String.ofList cs) args) (rest.dropWhile isTokenBlank) := by
  apply orElse_of_ok
  rw [bind_of_ok (symbol_cons rfl _), hb.dropWhile_append, dropWhile_blank_name hname,
    bind_of_ok (name_append_symbol hname hb' rfl rfl s),
    bind_of_ok (optional_of_ok (arguments_of_reads hb' hsteady h))]
  rfl

/-- An expression in brackets makes an index. -/
theorem suffix_of_index {key : Expr} (hsteady : Steady nested)
    (h : Reads nested s key (']' :: rest)) :
    suffix nested ('[' :: s) = .ok (.index key) (rest.dropWhile isTokenBlank) := by
  have hpoint : symbol '.' ('[' :: s) = .miss := by
    refine symbol_miss ?_
    rw [dropWhile_blank_cons rfl]
    simp
  rw [suffix, orElse_of_miss (bind_of_miss hpoint),
    bind_of_ok (enclosed_of_reads rfl rfl hsteady.lax h)]
  rfl

theorem steady_suffix (nested : Reader Expr) : Steady (suffix nested) :=
  ((Steady.symbol '.').bind _).orElse (((Steady.symbol '[').bind _).bind _)

theorem consuming_enclosed {p : Reader α} (h : Shrinking p) (opening closing : Char) :
    Consuming (enclosed opening closing p) :=
  (consuming_symbol opening).bind fun _ ↦ h.bind fun a ↦
    (consuming_symbol closing).shrinking.bind fun _ ↦ shrinking_yield a

theorem consuming_suffix (h : Spells [] nested reads) : Consuming (suffix nested) := by
  have hargs := shrinking_of_spells (Spells.optional (Spells.arguments h))
  have hindex := consuming_enclosed (shrinking_of_spells h) '[' ']'
  refine Consuming.orElse ?_ (hindex.bind fun key ↦ shrinking_yield _)
  refine (consuming_symbol '.').bind fun _ ↦ shrinking_name.bind fun word ↦ ?_
  refine hargs.bind fun args? ↦ ?_
  cases args? <;> exact shrinking_yield _

/-! ## Operators -/

theorem steady_leadingOp : Steady leadingOp := by
  refine Steady.choice fun p hp ↦ ?_
  simp only [List.mem_cons, List.not_mem_nil, or_false] at hp
  rcases hp with rfl | rfl | rfl <;> exact (Steady.symbol _).bind _

theorem leadingOp_append (hb : Blanks b) (op : UnaryOp) (s : List Char) :
    leadingOp (b ++ (op.symbol.toList ++ s)) = .ok op (s.dropWhile isTokenBlank) := by
  rw [steady_leadingOp.append hb]
  cases op <;> rfl

/-- An operator that was read is one of the level, and blanks may stand on either side of it. -/
theorem operatorOf_eq_ok {ops : List BinaryOp} {op : BinaryOp}
    (h : operatorOf ops s = .ok op rest) :
    op ∈ ops ∧ ∃ before after, Blanks before ∧ Blanks after ∧
      s = before ++ (op.symbol.toList ++ (after ++ rest)) := by
  obtain ⟨after, hafter, hchoice⟩ := token_eq_ok h
  obtain ⟨p, hp, hok⟩ := choice_eq_ok hchoice
  obtain ⟨op', hop, rfl⟩ := List.mem_map.mp hp
  obtain ⟨u, t, htext, hyield⟩ := bind_eq_ok.mp hok
  cases hyield
  refine ⟨hop, s.takeWhile isTokenBlank, after, blanks_takeWhile s, hafter, ?_⟩
  rw [← eq_append_of_text htext, List.takeWhile_append_dropWhile]

theorem consuming_operatorOf (ops : List BinaryOp) : Consuming (operatorOf ops) := by
  intro s rest op h
  obtain ⟨-, before, after, -, -, rfl⟩ := operatorOf_eq_ok h
  have hne : op.symbol.toList.length ≠ 0 := by cases op <;> simp [BinaryOp.symbol]
  simp only [List.length_append]
  omega

/-- An operator is read where it does not go on as a longer one, as `<` does in `<=`. -/
theorem operatorOf_append {ops : List BinaryOp} {op : BinaryOp} (hops : ops ∈ levels)
    (hop : op ∈ ops) (ht : t.head? ≠ some '=') :
    operatorOf ops (op.symbol.toList ++ t) = .ok op (t.dropWhile isTokenBlank) := by
  have hmiss : Reader.text ['='] t = .miss := text_miss (by simp) ht
  have hle : Reader.text BinaryOp.le.symbol.toList (BinaryOp.lt.symbol.toList ++ t) = .miss := hmiss
  have hge : Reader.text BinaryOp.ge.symbol.toList (BinaryOp.gt.symbol.toList ++ t) = .miss := hmiss
  have hblank : (op.symbol.toList ++ t).dropWhile isTokenBlank = op.symbol.toList ++ t := by
    cases op <;> exact dropWhile_blank_cons rfl _
  rw [operatorOf, token_eq, hblank]
  simp only [levels, List.mem_cons, List.not_mem_nil, or_false] at hops
  rcases hops with rfl | rfl | rfl | rfl | rfl | rfl <;>
    simp only [List.mem_cons, List.not_mem_nil, or_false] at hop
  · subst hop
    rfl
  · subst hop
    rfl
  · rcases hop with rfl | rfl | rfl | rfl <;> rfl
  · rcases hop with rfl | rfl | rfl | rfl
    · rfl
    · rfl
    · rw [List.map_cons, choice, orElse_of_miss (bind_of_miss hle)]
      rfl
    · rw [List.map_cons, List.map_cons, choice, orElse_of_miss (bind_of_miss rfl), choice,
        orElse_of_miss (bind_of_miss hge)]
      rfl
  · rcases hop with rfl | rfl <;> rfl
  · rcases hop with rfl | rfl | rfl <;> rfl

theorem signed_of_ok {op : UnaryOp} (h : leadingOp s = .ok op rest) :
    signed nested s = (signed nested rest).map (.unary op) := by
  rw [signed, h]
  exact if_pos (consuming_leadingOp h)

theorem signed_of_miss (h : leadingOp s = .miss) : signed nested s = operand nested s := by
  rw [signed, h]

/-- Blanks in front of a sign or an operand do not matter. -/
theorem steady_signed (nested : Reader Expr) : Steady (signed nested) := by
  intro s
  have hs := steady_leadingOp s
  cases hop : leadingOp s with
  | ok op rest => rw [signed_of_ok hop, signed_of_ok (hs.trans hop)]
  | miss =>
    rw [signed_of_miss hop, signed_of_miss (hs.trans hop)]
    exact (Steady.token _).bind _ s
  | abort => rw [signed, signed, hs, hop]

theorem steady_row (nested : Reader Expr) (levels : List (List BinaryOp)) :
    Steady (row nested levels) := by
  induction levels with
  | nil => exact steady_signed nested
  | cons ops tighter ih => exact ih.bind _

theorem steady_expression : Steady expression := by
  intro s
  rw [expression_eq, expression_eq]
  exact (steady_row expression levels).bind _ s

theorem shrinking_expression : Shrinking expression := shrinking_of_spells Spells.expression

end MapStyle.Expr.Parser
