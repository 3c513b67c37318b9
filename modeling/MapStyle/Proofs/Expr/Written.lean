import MapStyle.Proofs.Expr.Completeness

/-!
# Writing expressions

A tree can be written in many ways: a number by any digits that denote it, a string in quotes of
either kind, a member by its name or by a key in brackets, and anything in parentheses and with
blanks around its tokens. An operand has to be in parentheses where it is built by an operator or a
conditional, and digits alone need a blank in front of a point. However a tree is written, the
parser reads it back. Blanks are the ones of the grammar: spaces, tabs and the two characters that
end lines.
-/

namespace MapStyle.Expr

open Text Expr.Parser

/-! ## Texts of trees -/

/-- Where a tree is written. -/
inductive Place where
  /-- Where nothing stands next to it but brackets, commas and the symbols of a conditional. -/
  | free
  /-- As an operand, or in front of a suffix. -/
  | operand

/-- Texts with commas between them. -/
def commaText (items : List (Expr × List Char)) : List Char :=
  [','].intercalate (items.map Prod.snd)

/-- The text is a way to write the tree at the place. -/
inductive Written : Place → Expr → List Char → Prop where
  | number (place : Place) (n : Numeral) : Written place (.literal (.number n.value)) n.text
  | string (place : Place) {quote : Char} {s cs : List Char} (hquote : IsQuote quote)
      (h : Quoted quote s cs) :
      Written place (.literal (.string (String.ofList cs))) (quote :: (s ++ [quote]))
  | keyword (place : Place) {name : String} {e : Expr} (h : keyword? name = some e) :
      Written place e name.toList
  | constant (place : Place) {space name : String} {b b' : List Char} {x : Float} (hb : Blanks b)
      (hb' : Blanks b') (h : constant? space name = some x) :
      Written place (.literal (.number x)) (space.toList ++ (b ++ '.' :: (b' ++ name.toList)))
  | placeholder (place : Place) {body : List Char} (hbody : '}' ∉ body)
      (hdollar : (trim body).head? ≠ some '$') :
      Written place (.placeholder (String.ofList (trim body))) ('$' :: '{' :: (body ++ ['}']))
  | path (place : Place) {body : List Char} {p : Path} (hbody : '}' ∉ body)
      (h : Path.parse (String.ofList (trim body)) = .ok p) :
      Written place (.path p) ('$' :: '{' :: (body ++ ['}']))
  | array (place : Place) {b : List Char} {items : List (Expr × List Char)} (hb : Blanks b)
      (h : ∀ item ∈ items, Written .free item.1 item.2) :
      Written place (.array (items.map Prod.fst)) ('[' :: (b ++ (commaText items ++ [']'])))
  | unary (op : UnaryOp) {s : List Char} {e : Expr} (h : Written .operand e s) :
      Written .free (.unary op e) (op.symbol.toList ++ s)
  | binary (op : BinaryOp) {s t : List Char} {lhs rhs : Expr} (hlhs : Written .operand lhs s)
      (hrhs : Written .operand rhs t) :
      Written .free (.binary op lhs rhs) (s ++ (op.symbol.toList ++ t))
  | conditional {s t u : List Char} {test consequent alternate : Expr}
      (htest : Written .operand test s) (hconsequent : Written .free consequent t)
      (halternate : Written .free alternate u) :
      Written .free (.conditional test consequent alternate) (s ++ '?' :: (t ++ ':' :: u))
  | member (place : Place) {s b name : List Char} {e : Expr} (h : Written .operand e s)
      (hpoint : ¬ Whole s) (hb : Blanks b) (hname : IsName name) :
      Written place (.member e (.literal (.string (String.ofList name)))) (s ++ '.' :: (b ++ name))
  | index (place : Place) {s t : List Char} {e key : Expr} (h : Written .operand e s)
      (hkey : Written .free key t) : Written place (.member e key) (s ++ '[' :: (t ++ [']']))
  | call (place : Place) {name b b' : List Char} {items : List (Expr × List Char)}
      (hname : IsName name) (hb : Blanks b) (hb' : Blanks b')
      (h : ∀ item ∈ items, Written .free item.1 item.2) :
      Written place (.call (String.ofList name) (items.map Prod.fst))
        (name ++ (b ++ '(' :: (b' ++ (commaText items ++ [')']))))
  | method (place : Place) {s b name b' b'' : List Char} {e : Expr}
      {items : List (Expr × List Char)} (h : Written .operand e s) (hpoint : ¬ Whole s)
      (hb : Blanks b) (hname : IsName name) (hb' : Blanks b') (hb'' : Blanks b'')
      (hitems : ∀ item ∈ items, Written .free item.1 item.2) :
      Written place (.method e (String.ofList name) (items.map Prod.fst))
        (s ++ '.' :: (b ++ (name ++ (b' ++ '(' :: (b'' ++ (commaText items ++ [')']))))))
  | parens (place : Place) {s : List Char} {e : Expr} (h : Written .free e s) :
      Written place e ('(' :: (s ++ [')']))
  | blanks {place : Place} {b s b' : List Char} {e : Expr} (hb : Blanks b)
      (h : Written place e s) (hb' : Blanks b') : Written place e (b ++ (s ++ b'))

/-- The rank of the texts that are written at a place. -/
def Place.rank : Place → Rank
  | free => .expression
  | operand => .operand

variable {place : Place} {s t b : List Char} {e : Expr}

theorem Phrase.loosen {levels : List (List BinaryOp)} (front : List (List BinaryOp))
    (h : Phrase (.row levels) s e) : Phrase (.row (front ++ levels)) s e := by
  induction front with
  | nil => exact h
  | cons ops front ih => exact .tighter ops ih

theorem Phrase.row_of_operand (h : Phrase .operand s e) (levels : List (List BinaryOp)) :
    Phrase (.row levels) s e := by
  have hrow := Phrase.loosen levels h.unsigned
  rwa [List.append_nil] at hrow

theorem Phrase.at (place : Place) (h : Phrase .operand s e) : Phrase place.rank s e := by
  cases place with
  | free => exact .row (h.row_of_operand levels)
  | operand => exact h

theorem Phrase.operand_of_primary (h : Phrase .primary s e) : Phrase .operand s e := by
  simpa using Phrase.operand blanks_nil h blanks_nil

theorem BinaryOp.exists_level (op : BinaryOp) : ∃ ops ∈ levels, op ∈ ops := by
  cases op <;> decide

/-- Two operands around an operator of any level are an expression. -/
theorem Phrase.binary_of_operands {lhs rhs : Expr} (op : BinaryOp) (hlhs : Phrase .operand s lhs)
    (hrhs : Phrase .operand t rhs) :
    Phrase .expression (s ++ (op.symbol.toList ++ t)) (.binary op lhs rhs) := by
  obtain ⟨ops, hlevel, hop⟩ := op.exists_level
  obtain ⟨front, tighter, hlevels⟩ := List.append_of_mem hlevel
  have hrow := Phrase.loosen front
    (.binary hop (hlhs.row_of_operand (ops :: tighter)) (hrhs.row_of_operand tighter))
  rw [← hlevels] at hrow
  exact .row hrow

/-- Expressions with commas between them are the items of a list. -/
theorem phrase_items {items : List (Expr × List Char)}
    (h : ∀ item ∈ items, Phrase .expression item.2 item.1) :
    Phrase .items (commaText items) (.array (items.map Prod.fst)) := by
  induction items with
  | nil => exact .noItems blanks_nil
  | cons item items ih =>
    have hitem := h item (by simp)
    have hrest := ih fun other hother ↦ h other (by simp [hother])
    cases items with
    | nil =>
      rw [commaText, List.map_singleton, List.intercalate_singleton]
      exact .item hitem
    | cons next items =>
      have htext : commaText (item :: next :: items)
          = item.2 ++ ',' :: commaText (next :: items) := by
        simp [commaText, List.intercalate_cons_cons]
      rw [htext]
      exact .moreItems hitem hrest

theorem placeholderOf?_of_head {body : List Char} (h : (trim body).head? ≠ some '$') :
    placeholderOf? body = some (.placeholder (String.ofList (trim body))) := by
  unfold placeholderOf?
  split
  · rename_i rest hbody
    rw [hbody] at h
    contradiction
  · rfl

/-- A body that spells a path begins with the dollar sign. -/
theorem placeholderOf?_of_parse {body : List Char} {p : Path}
    (h : Path.parse (String.ofList (trim body)) = .ok p) :
    placeholderOf? body = some (.path p) := by
  obtain ⟨rest, hrest⟩ : ∃ rest, trim body = '$' :: rest := by
    rw [Path.parse, String.toList_ofList, Placeholder.trim_trim] at h
    split at h
    · rename_i segments hwhole
      unfold Reader.whole at hwhole
      split at hwhole
      · rename_i segments' hsteps
        obtain ⟨c, t, hdollar, -⟩ := Reader.bind_eq_ok.mp hsteps
        exact ⟨t, Reader.char_eq_ok hdollar⟩
      · contradiction
    · contradiction
  rw [hrest] at h
  unfold placeholderOf?
  rw [hrest]
  simp only [h]

/-- By induction on how the tree is written, it is a phrase of the rank that its place asks for. -/
theorem Written.phrase (h : Written place e s) : Phrase place.rank s e := by
  induction h with
  | number place n => exact (Phrase.number n).operand_of_primary.at place
  | string place hquote h => exact (Phrase.string hquote h).operand_of_primary.at place
  | keyword place h => exact (Phrase.keyword h).operand_of_primary.at place
  | constant place hb hb' h => exact (Phrase.constant hb hb' h).operand_of_primary.at place
  | placeholder place hbody hdollar =>
    have hbraces : ∀ c ∈ _, c ≠ '}' := fun c hc hbrace ↦ hbody (hbrace ▸ hc)
    exact (Phrase.placeholder hbraces (placeholderOf?_of_head hdollar)).operand_of_primary.at place
  | path place hbody h =>
    have hbraces : ∀ c ∈ _, c ≠ '}' := fun c hc hbrace ↦ hbody (hbrace ▸ hc)
    exact (Phrase.placeholder hbraces (placeholderOf?_of_parse h)).operand_of_primary.at place
  | array place hb h ih =>
    have hitems := (phrase_items ih).prepend (by simp) hb
    simpa using (Phrase.array hitems).operand_of_primary.at place
  | unary op h ih =>
    have hunary := Phrase.loosen levels (.unary blanks_nil op ih.unsigned)
    rw [List.append_nil] at hunary
    exact .row hunary
  | binary op hlhs hrhs ihl ihr => exact .binary_of_operands op ihl ihr
  | conditional htest hconsequent halternate iht ihc iha =>
    exact .conditional (iht.row_of_operand levels) ihc iha
  | member place h hpoint hb hname ih =>
    simpa using (Phrase.member ih hpoint hb hname blanks_nil).at place
  | index place h hkey ih ihkey =>
    exact (Phrase.index ih ihkey blanks_nil).at place
  | call place hname hb hb' h ih =>
    have hitems := (phrase_items ih).prepend (by simp) hb'
    simpa using (Phrase.call hname hb hitems).operand_of_primary.at place
  | method place h hpoint hb hname hb' hb'' hitems ih ihitems =>
    have hargs := (phrase_items ihitems).prepend (by simp) hb''
    simpa using (Phrase.method ih hpoint hb hname hb' hargs blanks_nil).at place
  | parens place h ih => exact (Phrase.parens ih).operand_of_primary.at place
  | @blanks place b s b' e hb h hb' ih =>
    have hplace : place.rank ≠ .primary := by cases place <;> simp [Place.rank]
    exact (ih.append hplace hb').prepend hplace hb

/-! ## Every tree can be written -/

end MapStyle.Expr
