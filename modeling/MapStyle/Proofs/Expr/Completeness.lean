import Mathlib.Data.List.Infix
import MapStyle.Proofs.Expr.Readers

/-!
# Reading phrases

The reader of expressions reads every phrase. A reader goes on as long as it can, so what it makes
of a phrase depends on what stands behind it; a phrase is therefore read in front of every text that
does not go on with it. An operand may be followed by a suffix, and a row by an operator of its
loosest level: the reader then goes on with the tree of the phrase in its hand, and the statement
says so by naming the reader that it goes on as.
-/

namespace MapStyle.Expr

open Text Reader Expr.Parser

variable {rest s t b : List Char} {e : Expr} {r : Rank}

/-! ## What a phrase begins with -/

/-- A character that an operand may begin with is no blank, and no operator in front of one. -/
def OpensOperand (c : Char) : Prop :=
  isTokenBlank c = false ∧ c ≠ '!' ∧ c ≠ '-' ∧ c ≠ '+' ∧ c ≠ '='

instance : DecidablePred OpensOperand := fun _ ↦ inferInstanceAs (Decidable (_ ∧ _))

/-- A class without blanks and operators opens operands. -/
theorem opensOperand_of_class {accept : Char → Bool} {c : Char} (h : accept c = true)
    (hblank : ∀ d, isTokenBlank d = true → accept d = false)
    (hnot : accept '!' = false) (hminus : accept '-' = false) (hplus : accept '+' = false)
    (hequals : accept '=' = false) : OpensOperand c := by
  have hne : ∀ d, accept d = false → c ≠ d := by
    rintro d hd rfl
    rw [hd] at h
    contradiction
  refine ⟨?_, hne _ hnot, hne _ hminus, hne _ hplus, hne _ hequals⟩
  by_contra hc
  exact hne c (hblank c (by simpa using hc)) rfl

theorem opensOperand_of_isDigit {c : Char} (h : c.isDigit = true) : OpensOperand c :=
  opensOperand_of_class h (fun _ ↦ not_isDigit_of_isTokenBlank) rfl rfl rfl rfl

theorem opensOperand_of_isNameStart {c : Char} (h : isNameStart c = true) : OpensOperand c := by
  refine opensOperand_of_class h (fun d hd ↦ ?_) rfl rfl rfl rfl
  by_contra hstart
  rw [not_isTokenBlank_of_isNameStart (by simpa using hstart)] at hd
  contradiction

theorem IsName.opens {cs : List Char} (h : IsName cs) : ∃ c t, cs = c :: t ∧ OpensOperand c := by
  cases cs with
  | nil => exact h.elim
  | cons c cs => exact ⟨c, cs, rfl, opensOperand_of_isNameStart h.1⟩

theorem Numeral.opens (n : Numeral) : ∃ c t, n.text = c :: t ∧ OpensOperand c := by
  rcases n with ⟨whole, fraction, exponent, hwhole, hfraction, hne⟩
  cases whole with
  | cons c cs => exact ⟨c, _, rfl, opensOperand_of_isDigit (hwhole c (by simp))⟩
  | nil =>
    cases fraction with
    | none => exact absurd rfl hne
    | some ds => exact ⟨'.', _, rfl, by decide⟩

/-- A primary phrase begins at once, with a character that opens an operand. -/
theorem Phrase.opens_primary (h : Phrase .primary s e) : ∃ c t, s = c :: t ∧ OpensOperand c := by
  cases h with
  | number n => exact n.opens
  | string hquote _ => exact ⟨_, _, rfl, by rcases hquote with rfl | rfl <;> decide⟩
  | placeholder _ _ => exact ⟨'$', _, rfl, by decide⟩
  | array _ => exact ⟨'[', _, rfl, by decide⟩
  | parens _ => exact ⟨'(', _, rfl, by decide⟩
  | keyword h => exact (isName_of_keyword? h).1.opens
  | constant _ _ h =>
    rcases (isName_of_constant? h).1 with rfl | rfl
    · exact ⟨'M', _, rfl, by decide⟩
    · exact ⟨'N', _, rfl, by decide⟩
  | call hname _ _ =>
    obtain ⟨c, t, rfl, hc⟩ := hname.opens
    exact ⟨c, _, rfl, hc⟩
  | mathCall _ _ _ _ _ => exact ⟨'M', _, rfl, by decide⟩

theorem dropWhile_blank_append {c : Char} (h : s.dropWhile isTokenBlank = c :: t)
    (rest : List Char) : (s ++ rest).dropWhile isTokenBlank = c :: (t ++ rest) := by
  rw [List.dropWhile_append, h]
  rfl

/-- An operand begins with no operator. -/
theorem Phrase.opens_operand (h : Phrase .operand s e) :
    ∃ c t, s.dropWhile isTokenBlank = c :: t ∧ OpensOperand c := by
  generalize hr : Rank.operand = r at h
  induction h with
  | operand hb h hb' =>
    obtain ⟨c, t, rfl, hc⟩ := h.opens_primary
    rw [hb.dropWhile_append]
    exact ⟨c, _, dropWhile_blank_cons hc.1 _, hc⟩
  | member _ _ _ _ _ ih =>
    obtain ⟨c, t, ht, hc⟩ := ih hr
    exact ⟨c, _, dropWhile_blank_append ht _, hc⟩
  | index _ _ _ ih _ =>
    obtain ⟨c, t, ht, hc⟩ := ih hr
    exact ⟨c, _, dropWhile_blank_append ht _, hc⟩
  | method _ _ _ _ _ _ _ ih _ =>
    obtain ⟨c, t, ht, hc⟩ := ih hr
    exact ⟨c, _, dropWhile_blank_append ht _, hc⟩
  | _ => contradiction

/-- No row begins with what would make an operator in front of it a longer one. -/
theorem Phrase.opens_row {levels : List (List BinaryOp)} (h : Phrase (.row levels) s e) :
    ∃ c t, s.dropWhile isTokenBlank = c :: t ∧ c ≠ '=' := by
  generalize hr : Rank.row levels = r at h
  induction h generalizing levels with
  | unsigned h =>
    obtain ⟨c, t, ht, hc⟩ := h.opens_operand
    exact ⟨c, t, ht, hc.2.2.2.2⟩
  | unary hb op _ _ =>
    rw [hb.dropWhile_append]
    cases op with
    | not => exact ⟨'!', _, rfl, by decide⟩
    | negate => exact ⟨'-', _, rfl, by decide⟩
    | plus => exact ⟨'+', _, rfl, by decide⟩
  | tighter ops _ ih => exact ih rfl
  | binary _ _ _ ih _ =>
    obtain ⟨c, t, ht, hc⟩ := ih rfl
    exact ⟨c, _, dropWhile_blank_append ht _, hc⟩
  | _ => contradiction

theorem Phrase.head?_row_ne {levels : List (List BinaryOp)} (h : Phrase (.row levels) s e)
    (rest : List Char) : (s ++ rest).head? ≠ some '=' := by
  obtain ⟨c, t, ht, hc⟩ := h.opens_row
  intro hhead
  obtain ⟨u, hu⟩ := List.head?_eq_some_iff.mp hhead
  have hdrop := dropWhile_blank_append ht rest
  rw [hu, dropWhile_blank_cons rfl, List.cons_eq_cons] at hdrop
  exact hc hdrop.1.symm

/-! ## What may stand behind a phrase -/

/-- What stands behind an operand does not go on with its last token. -/
def Apart (s rest : List Char) : Prop := EndsWord rest ∧ (Whole s → rest.head? ≠ some '.')

/-- What stands behind a row goes on neither with its last operand nor with an operator of these
levels. -/
def Clear (levels : List (List BinaryOp)) (rest : List Char) : Prop :=
  ∀ c ∈ (rest.dropWhile isTokenBlank).head?, (isNamePart c = false ∧ c ≠ '(') ∧ c ≠ '.' ∧ c ≠ '[' ∧
    ∀ ops ∈ levels, ∀ op ∈ ops, op.symbol.toList.head? ≠ some c

/-- What may stand behind a phrase of the rank. -/
def Rank.Follows : Rank → List Char → List Char → Prop
  | .expression, _, rest =>
    Clear Parser.levels rest ∧ (rest.dropWhile isTokenBlank).head? ≠ some '?'
  | .row levels, _, rest => Clear levels.tail rest
  | .operand, s, rest => Apart s rest
  | .primary, s, rest => Apart s rest
  | .items, _, rest => ∃ c t, (c = ')' ∨ c = ']') ∧ rest.dropWhile isTokenBlank = c :: t

theorem apart_point (h : ¬ Whole s) (t : List Char) : Apart s ('.' :: t) :=
  ⟨endsWord_cons rfl rfl (by decide) t, fun hwhole ↦ absurd hwhole h⟩

theorem apart_bracket (s t : List Char) : Apart s ('[' :: t) :=
  ⟨endsWord_cons rfl rfl (by decide) t, fun _ ↦ by simp⟩

theorem Clear.tail {levels : List (List BinaryOp)} (h : Clear levels rest) :
    Clear levels.tail rest := by
  intro c hc
  obtain ⟨hword, hpoint, hbracket, hops⟩ := h c hc
  exact ⟨hword, hpoint, hbracket, fun ops hmem ↦ hops ops (List.mem_of_mem_tail hmem)⟩

theorem head?_ne_of_dropWhile {c : Char} (hc : isTokenBlank c = false)
    (h : (s.dropWhile isTokenBlank).head? ≠ some c) : s.head? ≠ some c := by
  intro hhead
  obtain ⟨t, rfl⟩ := List.head?_eq_some_iff.mp hhead
  rw [dropWhile_blank_cons hc] at h
  exact h rfl

theorem Clear.apart {levels : List (List BinaryOp)} (h : Clear levels rest) (s : List Char) :
    Apart s rest :=
  ⟨fun c hc ↦ (h c hc).1, fun _ ↦ head?_ne_of_dropWhile rfl fun hc ↦ (h _ hc).2.1 rfl⟩

/-- A symbol that no operand and no operator begins with goes on with no row. -/
theorem clear_of_dropWhile {c : Char} (hc : c ∈ [')', ']', ',', ':', '?'])
    (h : rest.dropWhile isTokenBlank = c :: t) : Clear levels rest := by
  intro d hd
  rw [h] at hd
  simp only [List.mem_cons, List.not_mem_nil, or_false] at hc
  rcases hc with rfl | rfl | rfl | rfl | rfl <;> cases hd <;> decide

theorem follows_expression {c : Char} (hc : c ∈ [')', ']', ',', ':'])
    (h : rest.dropWhile isTokenBlank = c :: t) : Rank.expression.Follows s rest := by
  simp only [List.mem_cons, List.not_mem_nil, or_false] at hc
  refine ⟨clear_of_dropWhile (by simp; tauto) h, ?_⟩
  rw [h]
  rcases hc with rfl | rfl | rfl | rfl <;> simp

theorem follows_items {c : Char} (hc : c = ')' ∨ c = ']') (rest : List Char) :
    Rank.items.Follows s (c :: rest) :=
  ⟨c, rest, hc, dropWhile_blank_cons (by rcases hc with rfl | rfl <;> rfl) rest⟩

theorem clear_nil (levels : List (List BinaryOp)) : Clear levels [] := by simp [Clear]

/-- Operators of different levels begin with different characters. -/
theorem symbols_apart : ∀ ls ∈ levels.tails, ∀ op ∈ ls.head?.getD [], ∀ ops ∈ ls.tail,
    ∀ op' ∈ ops, op'.symbol.toList.head? ≠ op.symbol.toList.head? := by
  decide

/-- In front of an operator, the rows of the tighter operators are over. -/
theorem clear_symbol {ops : List BinaryOp} {tighter : List (List BinaryOp)} {op : BinaryOp}
    (hlevels : (ops :: tighter) <:+ levels) (hop : op ∈ ops) (s : List Char) :
    Clear tighter (op.symbol.toList ++ s) := by
  intro c hc
  have hhead : op.symbol.toList.head? = some c := by
    cases op <;> cases hc <;> rfl
  have hapart := symbols_apart (ops :: tighter) ((List.mem_tails _ _).mpr hlevels) op hop
  rw [hhead] at hapart
  have hsymbol : (isNamePart c = false ∧ c ≠ '(') ∧ c ≠ '.' ∧ c ≠ '[' := by
    cases op <;> cases hhead <;> decide
  exact ⟨hsymbol.1, hsymbol.2.1, hsymbol.2.2, hapart⟩

/-! ## The readers of phrases -/

/-- The reader of phrases of the rank. -/
def Rank.reader : Rank → Reader Expr
  | .expression => Parser.expression
  | .row levels => Parser.row Parser.expression levels
  | .operand => Parser.operand Parser.expression
  | .primary => Parser.primary Parser.expression
  | .items => do
    let es ← list Parser.expression
    yield (.array es)

/-- The reader that the one of the rank goes on as, with a phrase in its hand. -/
def Rank.resume : Rank → Expr → Reader Expr
  | .operand, e => do
    let suffixes ← many (suffix Parser.expression)
    yield (suffixes.foldl Suffix.attach e)
  | .row (ops :: tighter), e => rowRest (operatorOf ops) (Parser.row Parser.expression tighter) e
  | _, e => yield e

theorem consuming_suffix_expression : Consuming (suffix Parser.expression) :=
  consuming_suffix Spells.expression

theorem shrinking_row (levels : List (List BinaryOp)) :
    Shrinking (Parser.row Parser.expression levels) :=
  shrinking_of_spells (Spells.row Spells.expression levels)

/-- A suffix behind an operand becomes part of the operand. -/
theorem resume_of_suffix {x : Suffix} (h : suffix Parser.expression s = .ok x rest) :
    Rank.operand.resume e s = Rank.operand.resume (x.attach e) rest := by
  rw [Rank.resume, Rank.resume, bind_apply, bind_apply,
    many_of_ok h (consuming_suffix_expression h)]
  cases many (suffix Parser.expression) rest <;> rfl

/-- An operator behind a row and an operand behind it become part of the row. -/
theorem resume_of_operator {ops : List BinaryOp} {tighter : List (List BinaryOp)} {op : BinaryOp}
    {rhs : Expr} (hop : operatorOf ops s = .ok op t)
    (hrhs : (Rank.row tighter).reader t = .ok rhs rest) :
    (Rank.row (ops :: tighter)).resume e s
      = (Rank.row (ops :: tighter)).resume (.binary op e rhs) rest := by
  have hlt := consuming_operatorOf ops hop
  have hle := shrinking_row tighter hrhs
  rw [Rank.reader] at hrhs
  rw [Rank.resume, rowRest, hop]
  dsimp only
  rw [hrhs]
  dsimp only
  rw [if_pos (by omega), Rank.resume]

/-- Blanks in front of the rest of a row do not matter. -/
theorem lax_rowRest (ops : List BinaryOp) (tighter : List (List BinaryOp)) (e : Expr) :
    Lax ((Rank.row (ops :: tighter)).resume e) := by
  intro s
  have hs : operatorOf ops (s.dropWhile isTokenBlank) = operatorOf ops s := Steady.token _ s
  cases hop : operatorOf ops s with
  | miss =>
    rw [Rank.resume, rowRest, rowRest, hs, hop]
    exact Lax.yield e s
  | abort => rw [Rank.resume, rowRest, rowRest, hs, hop]
  | ok op t =>
    cases hrhs : (Rank.row tighter).reader t with
    | ok rhs left => rw [resume_of_operator hop hrhs, resume_of_operator (hs.trans hop) hrhs]
    | miss =>
      rw [Rank.reader] at hrhs
      rw [Rank.resume, rowRest, rowRest, hs, hop]
      dsimp only
      rw [hrhs]
    | abort =>
      rw [Rank.reader] at hrhs
      rw [Rank.resume, rowRest, rowRest, hs, hop]
      dsimp only
      rw [hrhs]

theorem lax_resume (r : Rank) (e : Expr) : Lax (r.resume e) := by
  rcases r with _ | (_ | ⟨ops, tighter⟩) | _ | _ | _
  · exact Lax.yield e
  · exact Lax.yield e
  · exact lax_rowRest ops tighter e
  · exact ((steady_suffix _).lax_many consuming_suffix_expression).bind fun _ ↦ Lax.yield _
  · exact Lax.yield e
  · exact Lax.yield e

/-- Where nothing that goes on with the row stands behind it, the row is complete. -/
theorem resume_of_clear {levels : List (List BinaryOp)} (h : Clear levels rest) :
    (Rank.row levels).resume e rest = .ok e rest := by
  cases levels with
  | nil => rfl
  | cons ops tighter =>
    have hmiss : operatorOf ops rest = .miss := by
      refine operatorOf_miss fun op hop hhead ↦ ?_
      obtain ⟨c, t, hsymbol⟩ : ∃ c t, op.symbol.toList = c :: t := by
        cases op <;> exact ⟨_, _, rfl⟩
      rw [hsymbol] at hhead
      exact (h c hhead).2.2.2 ops (by simp) op hop (by rw [hsymbol, List.head?_cons])
    rw [Rank.resume, rowRest, hmiss]

/-- No expression begins with a bracket that closes. -/
theorem expression_miss {c : Char} (hc : c = ')' ∨ c = ']')
    (h : s.dropWhile isTokenBlank = c :: t) : Parser.expression s = .miss := by
  have hprimary : Parser.primary Parser.expression (c :: t) = .miss := by
    rcases hc with rfl | rfl <;>
      exact primary_miss rfl rfl rfl (by simp [IsQuote]) (by decide) t
  have hleading : leadingOp s = .miss := by
    refine leadingOp_miss ?_
    rw [h]
    rintro d hd
    cases hd
    rcases hc with rfl | rfl <;> decide
  have hsigned : signed Parser.expression s = .miss := by
    rw [signed_of_miss hleading]
    refine bind_of_miss ?_
    rw [token_eq, h, hprimary]
    rfl
  have hrow : ∀ levels, Parser.row Parser.expression levels s = .miss := by
    intro levels
    induction levels with
    | nil => exact hsigned
    | cons ops tighter ih => exact bind_of_miss ih
  rw [expression_eq]
  exact bind_of_miss (hrow _)

/-! ## Every phrase is read -/

/-- Blanks behind the last token of an operand keep a point away from it. -/
theorem Apart.primary {b' : List Char} (h : Apart (b ++ (s ++ b')) rest) (hb : Blanks b)
    (hb' : Blanks b') : Apart s (b' ++ rest) := by
  refine ⟨h.1.append hb', fun hwhole ↦ ?_⟩
  cases b' with
  | nil => simpa [whole_append hb, hwhole] using h.2
  | cons c b' =>
    intro hhead
    have hc := hb' c (by simp)
    rw [List.cons_append, List.head?_cons, Option.some.injEq] at hhead
    rw [hhead] at hc
    contradiction

/-- The items of a list are read up to the bracket that closes it. -/
theorem reads_list {es : List Expr}
    (h : (Rank.items.reader s).settle = (Rank.items.resume (.array es) rest).settle) :
    Reads (list Parser.expression) s es rest := by
  rw [Rank.reader, bind_apply] at h
  rw [Reads]
  cases hlist : list Parser.expression s with
  | ok es' left =>
    rw [hlist] at h
    simpa [Reply.settle, yield, Rank.resume] using h
  | miss =>
    rw [hlist] at h
    contradiction
  | abort =>
    rw [hlist] at h
    contradiction

/-- An operand is read with what stands behind it. -/
theorem settle_operand (hs : Phrase .primary s e) (hb : Blanks b)
    (h : Reads (Parser.primary Parser.expression) (s ++ rest) e rest) :
    (Rank.operand.reader (b ++ (s ++ rest))).settle = (Rank.operand.resume e rest).settle := by
  obtain ⟨c, t, rfl, hc⟩ := hs.opens_primary
  have hblank : (b ++ (c :: t ++ rest)).dropWhile isTokenBlank = c :: t ++ rest := by
    rw [hb.dropWhile_append, List.cons_append, dropWhile_blank_cons hc.1]
  have htoken : token (Parser.primary Parser.expression) (b ++ (c :: t ++ rest))
      = .ok e (rest.dropWhile isTokenBlank) := by
    refine Reads.token ?_
    rwa [hblank]
  rw [Rank.reader, Parser.operand, bind_of_ok htoken]
  exact lax_resume .operand e rest

/-- Where no suffix stands behind an operand, the operand alone is read. -/
theorem settle_unsigned (hs : Phrase .operand s e) (hrest : Clear [] rest)
    (h : (Rank.operand.reader (s ++ rest)).settle = (Rank.operand.resume e rest).settle) :
    Reads (signed Parser.expression) (s ++ rest) e rest := by
  obtain ⟨c, t, ht, hc⟩ := hs.opens_operand
  have hleading : leadingOp (s ++ rest) = .miss := by
    refine leadingOp_miss fun d hd ↦ ?_
    rw [dropWhile_blank_append ht] at hd
    cases hd
    exact ⟨hc.2.1, hc.2.2.1, hc.2.2.2.1⟩
  have hsuffix : suffix Parser.expression rest = .miss :=
    suffix_miss (fun hc ↦ (hrest _ hc).2.1 rfl) (fun hc ↦ (hrest _ hc).2.2.1 rfl)
  have hresume : Rank.operand.resume e rest = .ok e rest := by
    rw [Rank.resume, bind_of_ok (many_of_miss hsuffix)]
    rfl
  rw [Reads, signed_of_miss hleading]
  rw [hresume] at h
  exact h

/-- The reader of the rank reads the phrase, and goes on with it in its hand. -/
def Rank.Reads (r : Rank) (s : List Char) (e : Expr) : Prop :=
  ∀ rest, r.Follows s rest → (r.reader (s ++ rest)).settle = (r.resume e rest).settle

/-- The levels of a row are those of the grammar from some level on. -/
def Rank.Valid : Rank → Prop
  | .row levels => levels <:+ Parser.levels
  | _ => True

/-- A row is read alone where nothing that goes on with it stands behind it. -/
theorem Rank.Reads.row {levels : List (List BinaryOp)} (h : (Rank.row levels).Reads s e)
    (hrest : Clear levels rest) :
    Reader.Reads (Parser.row Parser.expression levels) (s ++ rest) e rest := by
  have hread := h rest hrest.tail
  rw [resume_of_clear hrest] at hread
  exact hread

/-- An expression is read alone in front of a symbol that ends it. -/
theorem Rank.Reads.expression (h : Rank.expression.Reads s e) {c : Char}
    (hc : c ∈ [')', ']', ',', ':']) (hrest : rest.dropWhile isTokenBlank = c :: t) :
    Reader.Reads Parser.expression (s ++ rest) e rest :=
  h rest (follows_expression hc hrest)

/-- The branches of a conditional are read behind its test. -/
theorem branches_of_reads {consequent alternate : Expr}
    (hconsequent : Reads Parser.expression s consequent (':' :: t))
    (halternate : Parser.expression t = .ok alternate rest) :
    branches Parser.expression ('?' :: s) = .ok (consequent, alternate) rest := by
  have hcolon : Steady (symbol ':' >>= fun _ ↦ Parser.expression >>= fun alternate ↦
      yield (consequent, alternate)) := (Steady.symbol ':').bind _
  rw [branches, bind_of_ok (symbol_cons rfl s),
    (hconsequent.of_lax steady_expression.lax).bind hcolon, bind_of_ok (symbol_cons rfl t),
    bind_of_ok ((steady_expression t).trans halternate)]
  rfl

/-! ### Operands -/

theorem reads_number (n : Numeral) :
    Rank.primary.Reads n.text (.literal (.number n.value)) := by
  rintro rest ⟨hword, hpoint⟩
  have hstops := stops_of_dropWhile fun c hc ↦ (hword c hc).1
  rw [Rank.reader, primary_of_number (number_append n hstops hpoint)]
  rfl

theorem reads_string {quote : Char} {cs : List Char} (hquote : IsQuote quote)
    (h : Quoted quote s cs) :
    Rank.primary.Reads (quote :: (s ++ [quote])) (.literal (.string (String.ofList cs))) := by
  intro rest _
  have hstring := string_append hquote h rest
  rw [Rank.reader, List.cons_append, List.append_assoc, List.singleton_append,
    primary_of_string hquote hstring]
  rfl

theorem reads_placeholder {body : List Char} (hbody : ∀ c ∈ body, c ≠ '}')
    (h : Parser.placeholderOf? body = some e) :
    Rank.primary.Reads ('$' :: '{' :: (body ++ ['}'])) e := by
  intro rest _
  have hplaceholder := placeholder_append hbody h rest
  rw [Rank.reader, List.cons_append, List.cons_append, List.append_assoc, List.singleton_append,
    primary_of_placeholder hplaceholder]
  rfl

/-- Items between brackets are read as an array. -/
theorem reads_array {es : List Expr} (h : Rank.items.Reads s (.array es)) :
    Rank.primary.Reads ('[' :: (s ++ [']'])) (.array es) := by
  intro rest _
  have hitems := reads_list (h (']' :: rest) (follows_items (.inr rfl) rest))
  have henclosed : enclosed '[' ']' (list Parser.expression) ('[' :: (s ++ ']' :: rest))
      = .ok es (rest.dropWhile isTokenBlank) :=
    enclosed_of_reads rfl rfl steady_expression.lax_separated hitems
  rw [Rank.reader, List.cons_append, List.append_assoc, List.singleton_append,
    primary_of_bracket henclosed]
  exact Lax.yield _ rest

/-- An expression between parentheses is read as it is. -/
theorem reads_parens (h : Rank.expression.Reads s e) :
    Rank.primary.Reads ('(' :: (s ++ [')'])) e := by
  intro rest _
  have hnested := h.expression (by simp) (dropWhile_blank_cons (c := ')') rfl rest)
  have henclosed : enclosed '(' ')' Parser.expression ('(' :: (s ++ ')' :: rest))
      = .ok e (rest.dropWhile isTokenBlank) :=
    enclosed_of_reads rfl rfl steady_expression.lax hnested
  rw [Rank.reader, List.cons_append, List.append_assoc, List.singleton_append,
    primary_of_paren henclosed]
  exact Lax.yield _ rest

theorem reads_keyword {name : String} (h : Parser.keyword? name = some e) :
    Rank.primary.Reads name.toList e := by
  intro rest hrest
  rw [Rank.reader, primary_of_named (isName_of_keyword? h).1 (named_of_keyword h hrest.1)]
  rfl

/-- A constant is read with blanks on either side of its point. -/
theorem reads_constant {space name : String} {b' : List Char} {x : Float} (hb : Blanks b)
    (hb' : Blanks b') (h : Parser.constant? space name = some x) :
    Rank.primary.Reads (space.toList ++ (b ++ '.' :: (b' ++ name.toList)))
      (.literal (.number x)) := by
  intro rest hrest
  obtain ⟨hspace, hname⟩ := isName_of_constant? h
  have hnamed : named Parser.expression
      (space.toList ++ (b ++ '.' :: (b' ++ (name.toList ++ rest))))
      = .ok (.literal (.number x)) rest := by
    rw [named_of_space hspace hb, spaceMember_of_constant hb' h hrest.1]
  simp only [Rank.reader, List.append_assoc, List.cons_append,
    primary_of_named (isName_of_space hspace) hnamed]
  rfl

/-- A name with items between parentheses is read as a call. -/
theorem reads_call {name : List Char} {args : List Expr} (hname : IsName name) (hb : Blanks b)
    (h : Rank.items.Reads s (.array args)) :
    Rank.primary.Reads (name ++ (b ++ '(' :: (s ++ [')']))) (.call (String.ofList name) args) := by
  intro rest _
  have hitems := reads_list (h (')' :: rest) (follows_items (.inl rfl) rest))
  have hnamed := named_of_call hname hb steady_expression hitems
  simp only [Rank.reader, List.append_assoc, List.cons_append, List.nil_append,
    primary_of_named hname hnamed]
  exact Lax.yield _ rest

/-- A function behind the name of the space is read like a bare call. -/
theorem reads_mathCall {b' name b'' : List Char} {args : List Expr} (hb : Blanks b)
    (hb' : Blanks b') (hname : IsName name) (hb'' : Blanks b'')
    (h : Rank.items.Reads s (.array args)) :
    Rank.primary.Reads
      ("Math".toList ++ (b ++ '.' :: (b' ++ (name ++ (b'' ++ '(' :: (s ++ [')']))))))
      (.call (String.ofList name) args) := by
  intro rest _
  have hitems := reads_list (h (')' :: rest) (follows_items (.inl rfl) rest))
  have hmember := spaceMember_of_call hb' hname hb'' steady_expression hitems
  have hnamed := (named_of_space (.inl rfl) hb _).trans hmember
  simp only [Rank.reader, List.append_assoc, List.cons_append, List.nil_append,
    primary_of_named (by decide) hnamed]
  exact Lax.yield _ rest

/-! ### Suffixes

The reader has the operand in its hand and goes on with the suffix.
-/

/-- Blanks behind an operand belong to it, and the reader drops them before it goes on. -/
theorem reads_operand {b' : List Char} (hb : Blanks b) (hs : Phrase .primary s e)
    (h : Rank.primary.Reads s e) (hb' : Blanks b') : Rank.operand.Reads (b ++ (s ++ b')) e := by
  intro rest hrest
  have hreads := h (b' ++ rest) (hrest.primary hb hb')
  have hoperand := settle_operand hs hb hreads
  rw [List.append_assoc, List.append_assoc, hoperand]
  exact (lax_resume .operand e).settle_congr (hb'.dropWhile_append rest)

/-- A member behind a point is read, unless the point would belong to a number. -/
theorem reads_member {name b' : List Char} (h : Rank.operand.Reads s e) (hpoint : ¬ Whole s)
    (hb : Blanks b) (hname : IsName name) (hb' : Blanks b') :
    Rank.operand.Reads (s ++ '.' :: (b ++ (name ++ b')))
      (.member e (.literal (.string (String.ofList name)))) := by
  intro rest hrest
  have hobject := h _ (apart_point hpoint (b ++ (name ++ (b' ++ rest))))
  rw [List.append_assoc, List.cons_append, List.append_assoc, List.append_assoc, hobject,
    resume_of_suffix (suffix_of_member hb hname (hrest.1.append hb'))]
  exact (lax_resume .operand _).settle_congr (hb'.dropWhile_append rest)

/-- An expression between brackets behind an operand is read as the key of a member. -/
theorem reads_index {key : Expr} (h : Rank.operand.Reads s e) (hkey : Rank.expression.Reads t key)
    (hb : Blanks b) : Rank.operand.Reads (s ++ '[' :: (t ++ ']' :: b)) (.member e key) := by
  intro rest hrest
  have hnested := hkey.expression (by simp) (dropWhile_blank_cons (c := ']') rfl (b ++ rest))
  have hsuffix := suffix_of_index steady_expression hnested
  have hobject := h _ (apart_bracket s (t ++ ']' :: (b ++ rest)))
  rw [List.append_assoc, List.cons_append, List.append_assoc, List.cons_append, hobject,
    resume_of_suffix hsuffix]
  refine (lax_resume .operand _).settle_congr ?_
  rw [dropWhile_blank_idem, hb.dropWhile_append]

/-- A call behind a point is read as a method. -/
theorem reads_method {name b' b'' : List Char} {args : List Expr} (h : Rank.operand.Reads s e)
    (hpoint : ¬ Whole s) (hb : Blanks b) (hname : IsName name) (hb' : Blanks b')
    (hargs : Rank.items.Reads t (.array args)) (hb'' : Blanks b'') :
    Rank.operand.Reads (s ++ '.' :: (b ++ (name ++ (b' ++ '(' :: (t ++ ')' :: b'')))))
      (.method e (String.ofList name) args) := by
  intro rest hrest
  have hitems := reads_list (hargs (')' :: (b'' ++ rest)) (follows_items (.inl rfl) _))
  have hsuffix := suffix_of_method hb hname hb' steady_expression hitems
  have hobject := h _
    (apart_point hpoint (b ++ (name ++ (b' ++ '(' :: (t ++ ')' :: (b'' ++ rest))))))
  simp only [List.append_assoc, List.cons_append]
  rw [hobject, resume_of_suffix hsuffix]
  refine (lax_resume .operand _).settle_congr ?_
  rw [dropWhile_blank_idem, hb''.dropWhile_append]

/-! ### Rows and expressions -/

/-- A sign stands in front of a signed operand, with blanks before it. -/
theorem reads_unary (hb : Blanks b) (op : UnaryOp) (h : (Rank.row []).Reads s e) :
    (Rank.row []).Reads (b ++ (op.symbol.toList ++ s)) (.unary op e) := by
  intro rest hrest
  have hoperand := h rest hrest
  have hsteady := steady_signed Parser.expression (s ++ rest)
  have hleading := leadingOp_append hb op (s ++ rest)
  rw [List.append_assoc, List.append_assoc]
  rw [Rank.reader, Parser.row] at hoperand ⊢
  obtain ⟨left, hleft, hblank⟩ := Reads.exists hoperand
  rw [signed_of_ok hleading, hsteady, hleft]
  exact congrArg (Reply.ok _) hblank

/-- The reader has the row on the left in its hand and goes on with the operator, so a row groups
to the left. -/
theorem reads_binary {lhs rhs : Expr} {op : BinaryOp} {ops : List BinaryOp}
    {levels : List (List BinaryOp)} (hlevels : (ops :: levels) <:+ Parser.levels) (hop : op ∈ ops)
    (hlhs : (Rank.row (ops :: levels)).Reads s lhs) (ht : Phrase (.row levels) t rhs)
    (hrhs : (Rank.row levels).Reads t rhs) :
    (Rank.row (ops :: levels)).Reads (s ++ (op.symbol.toList ++ t)) (.binary op lhs rhs) := by
  intro rest hrest
  have hops : ops ∈ Parser.levels := hlevels.subset (by simp)
  have hleft := hlhs (op.symbol.toList ++ (t ++ rest)) (clear_symbol hlevels hop _)
  obtain ⟨left, hread, hblank⟩ := (hrhs.row hrest).exists
  have hoperator := operatorOf_append hops hop (ht.head?_row_ne rest)
  have hsteady := steady_row Parser.expression levels (t ++ rest)
  rw [List.append_assoc, List.append_assoc, hleft,
    resume_of_operator hoperator (hsteady.trans hread)]
  exact (lax_rowRest ops levels _).settle_congr hblank

theorem reads_expression (h : (Rank.row Parser.levels).Reads s e) :
    Rank.expression.Reads s e := by
  rintro rest ⟨hclear, hquestion⟩
  obtain ⟨left, hread, hblank⟩ := (h.row hclear).exists
  have hbranches : optional (branches Parser.expression) left = .ok none left :=
    optional_of_miss (bind_of_miss (symbol_miss (by rwa [hblank])))
  rw [Rank.reader, expression_eq, Parser.conditional, bind_of_ok hread, bind_of_ok hbranches]
  exact congrArg (Reply.ok _) hblank

/-- The branches of a conditional are expressions again, its test is not. -/
theorem reads_conditional {u : List Char} {test consequent alternate : Expr}
    (htest : (Rank.row Parser.levels).Reads s test)
    (hconsequent : Rank.expression.Reads t consequent)
    (halternate : Rank.expression.Reads u alternate) :
    Rank.expression.Reads (s ++ '?' :: (t ++ ':' :: u))
      (.conditional test consequent alternate) := by
  intro rest hrest
  have hquestion : Clear Parser.levels ('?' :: (t ++ ':' :: (u ++ rest))) :=
    clear_of_dropWhile (by simp) (dropWhile_blank_cons rfl _)
  have hthen := hconsequent.expression (by simp) (dropWhile_blank_cons (c := ':') rfl (u ++ rest))
  obtain ⟨left, hleft, hblank⟩ := Reads.exists (halternate rest hrest)
  obtain ⟨front, hread, hfront⟩ := (htest.row hquestion).exists
  have hbranches : optional (branches Parser.expression) front
      = .ok (some (consequent, alternate)) left := by
    have hsteady : Steady (branches Parser.expression) := (Steady.symbol '?').bind _
    exact optional_of_ok ((hsteady.congr hfront).trans (branches_of_reads hthen hleft))
  rw [List.append_assoc, List.cons_append, List.append_assoc, List.cons_append, Rank.reader,
    expression_eq, Parser.conditional, bind_of_ok hread, bind_of_ok hbranches]
  exact congrArg (Reply.ok _) hblank

/-! ### Lists -/

theorem reads_noItems (hb : Blanks b) : Rank.items.Reads b (.array []) := by
  rintro rest ⟨c, t, hc, ht⟩
  have hmiss : Parser.expression (b ++ rest) = .miss :=
    expression_miss hc (by rw [hb.dropWhile_append, ht])
  rw [Rank.reader, list, bind_of_ok (separated_of_miss hmiss)]
  exact congrArg (Reply.ok _) (hb.dropWhile_append rest)

theorem reads_item (h : Rank.expression.Reads s e) : Rank.items.Reads s (.array [e]) := by
  rintro rest ⟨c, t, hc, ht⟩
  obtain ⟨left, hread, hblank⟩ := (h.expression (by simp; tauto) ht).exists
  have hcomma : (left.dropWhile isTokenBlank).head? ≠ some ',' := by
    rw [hblank, ht]
    rcases hc with rfl | rfl <;> simp
  rw [Rank.reader, bind_of_ok (list_of_item hread hcomma)]
  exact congrArg (Reply.ok _) hblank

/-- An item, a comma and further items are read as the longer list. -/
theorem reads_moreItems {next : Expr} {es : List Expr} (h : Rank.expression.Reads s e)
    (hrest : Rank.items.Reads t (.array (next :: es))) :
    Rank.items.Reads (s ++ ',' :: t) (.array (e :: next :: es)) := by
  intro rest hfollows
  have hfirst := h.expression (by simp) (dropWhile_blank_cons (c := ',') rfl (t ++ rest))
  obtain ⟨left, hitems, hblank⟩ := (reads_list (hrest rest hfollows)).exists
  have hlist := list_of_items steady_expression shrinking_expression hfirst hitems
  rw [List.append_assoc, List.cons_append, Rank.reader, bind_of_ok hlist]
  exact congrArg (Reply.ok _) hblank

/-! ### Phrases -/

/-- Every phrase is read. What stands behind a phrase varies from one part of it to the next, so the
induction carries every text that may follow. -/
theorem Phrase.reads (h : Phrase r s e) (hr : r.Valid) : r.Reads s e := by
  induction h with
  | number n => exact reads_number n
  | string hquote h => exact reads_string hquote h
  | placeholder hbody h => exact reads_placeholder hbody h
  | array _ ih => exact reads_array (ih trivial)
  | parens _ ih => exact reads_parens (ih trivial)
  | keyword h => exact reads_keyword h
  | constant hb hb' h => exact reads_constant hb hb' h
  | call hname hb _ ih => exact reads_call hname hb (ih trivial)
  | mathCall hb hb' hname hb'' _ ih => exact reads_mathCall hb hb' hname hb'' (ih trivial)
  | operand hb h hb' ih => exact reads_operand hb h (ih trivial) hb'
  | member _ hpoint hb hname hb' ih => exact reads_member (ih trivial) hpoint hb hname hb'
  | index _ _ hb ih ihkey => exact reads_index (ih trivial) (ihkey trivial) hb
  | method _ hpoint hb hname hb' _ hb'' ih ihargs =>
    exact reads_method (ih trivial) hpoint hb hname hb' (ihargs trivial) hb''
  | unsigned h ih =>
    intro rest hrest
    exact settle_unsigned h hrest (ih trivial rest (hrest.apart _))
  | unary hb op _ ih => exact reads_unary hb op (ih hr)
  | tighter ops _ ih =>
    intro rest hrest
    have htighter := (ih ((List.suffix_cons _ _).trans hr)).row hrest
    exact htighter.settle_bind (lax_rowRest ops _ _)
  | binary hop _ ht ihl ihr =>
    exact reads_binary hr hop (ihl hr) ht (ihr ((List.suffix_cons _ _).trans hr))
  | row _ ih => exact reads_expression (ih (List.suffix_refl _))
  | conditional _ _ _ iht ihc iha =>
    exact reads_conditional (iht (List.suffix_refl _)) (ihc trivial) (iha trivial)
  | noItems hb => exact reads_noItems hb
  | item _ ih => exact reads_item (ih trivial)
  | moreItems _ _ ih ihrest => exact reads_moreItems (ih trivial) (ihrest trivial)

/-- A text that is an expression is parsed as the tree that it denotes. -/
theorem parse?_of_phrase {source : String} (h : Phrase .expression source.toList e) :
    parse? source = some e := by
  have hread : Reads Parser.expression source.toList e [] := by
    have h := h.reads trivial [] ⟨clear_nil _, by simp⟩
    rwa [List.append_nil] at h
  rw [parse?, whole, (hread.of_lax steady_expression.lax).token]
  rfl

end MapStyle.Expr
