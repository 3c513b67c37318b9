import MapStyle.Expr.Parser
import MapStyle.Proofs.Text.Reader

/-!
# Phrases

The grammar of expressions as a relation between texts and trees, without a reader. A phrase is a
text with the tree that it denotes, and its rank tells where it may stand: as a whole expression, as
a row of operands with operators of some levels between them, as an operand with all that stands
behind it, as an operand without anything behind it, or as the items of a list. Blanks may stand
around every token, so a phrase of any rank but the innermost one may be surrounded by them.
-/

namespace MapStyle.Expr

open Text

/-! ## Tokens -/

/-- The power of ten behind a numeral, as it is written. -/
structure Exponent where
  /-- The letter in front. -/
  mark : Char
  sign : Option Char
  digits : List Char
  mark_eq : mark = 'e' ∨ mark = 'E'
  sign_eq : ∀ c ∈ sign, c = '+' ∨ c = '-'
  digits_ne : digits ≠ []
  isDigit_digits : ∀ c ∈ digits, c.isDigit = true

namespace Exponent

def text (x : Exponent) : List Char := x.mark :: (x.sign.toList ++ x.digits)

/-- The power of ten that the exponent stands for. -/
def power (x : Exponent) : Int :=
  if x.sign = some '-' then -(Decimal.ofDigits x.digits : Int) else Decimal.ofDigits x.digits

end Exponent

/-- A number without a sign, as it is written: digits on both sides of a point, on one side, or
without a point. -/
structure Numeral where
  /-- The digits in front of the point. -/
  whole : List Char
  /-- The digits behind the point, if there is a point. -/
  fraction : Option (List Char)
  /-- The power of ten, if one is written. -/
  exponent : Option Exponent
  isDigit_whole : ∀ c ∈ whole, c.isDigit = true
  isDigit_fraction : ∀ ds ∈ fraction, ∀ c ∈ ds, c.isDigit = true
  digits_ne : whole ++ fraction.getD [] ≠ []

namespace Numeral

/-- The point and the digits behind it. -/
def fractionText (n : Numeral) : List Char := n.fraction.elim [] ('.' :: ·)

def exponentText (n : Numeral) : List Char := n.exponent.elim [] Exponent.text

def text (n : Numeral) : List Char := n.whole ++ (n.fractionText ++ n.exponentText)

/-- The double that the digits denote. -/
def value (n : Numeral) : Float :=
  (Decimal.ofParts n.whole (n.fraction.getD []) (n.exponent.elim 0 Exponent.power)).toFloat

end Numeral

/-- The text between two quotes spells the characters. The quote and the backslash stand only
behind a backslash. -/
inductive Quoted (quote : Char) : (text chars : List Char) → Prop where
  | nil : Quoted quote [] []
  | plain {c : Char} {text chars : List Char} (hquote : c ≠ quote) (hbackslash : c ≠ '\\')
      (h : Quoted quote text chars) : Quoted quote (c :: text) (c :: chars)
  | escaped (c : Char) {text chars : List Char} (h : Quoted quote text chars) :
      Quoted quote ('\\' :: c :: text) (Parser.unescape c :: chars)

/-- A quote of either kind. -/
def IsQuote (c : Char) : Prop := c = '\'' ∨ c = '"'

/-- A letter or an underscore, then letters, numbers and underscores. -/
def IsName : List Char → Prop
  | [] => False
  | c :: cs => Reader.isNameStart c = true ∧ ∀ d ∈ cs, Reader.isNamePart d = true

-- The two instances name how a quantifier over a list is decided: the search for an instance may
-- settle on the one that runs through all characters.
instance : DecidablePred IsName
  | [] => inferInstanceAs (Decidable False)
  | c :: cs =>
    @instDecidableAnd (Reader.isNameStart c = true) _ inferInstance (List.decidableBAll _ cs)

/-- Digits alone, with any blanks in front. A point right behind them belongs to the number. -/
def Whole (s : List Char) : Prop :=
  s.dropWhile isTokenBlank ≠ [] ∧ ∀ c ∈ s.dropWhile isTokenBlank, c.isDigit = true

instance : DecidablePred Whole := fun s ↦
  @instDecidableAnd (s.dropWhile isTokenBlank ≠ []) _ inferInstance (List.decidableBAll _ _)

/-! ## The grammar -/

/-- Where a phrase may stand. -/
inductive Rank where
  | expression
  /-- As a row of operands with operators of these levels between them. -/
  | row (levels : List (List BinaryOp))
  | operand
  /-- As an operand without anything behind it, and without blanks around it. -/
  | primary
  /-- As the items of a list; the tree is the array of the items. -/
  | items

/-- The text is a phrase of the rank and denotes the tree. -/
inductive Phrase : Rank → List Char → Expr → Prop where
  | number (n : Numeral) : Phrase .primary n.text (.literal (.number n.value))
  | string {quote : Char} {s cs : List Char} (hquote : IsQuote quote) (h : Quoted quote s cs) :
      Phrase .primary (quote :: (s ++ [quote])) (.literal (.string (String.ofList cs)))
  | placeholder {body : List Char} {e : Expr} (hbody : ∀ c ∈ body, c ≠ '}')
      (h : Parser.placeholderOf? body = some e) :
      Phrase .primary ('$' :: '{' :: (body ++ ['}'])) e
  | array {s : List Char} {es : List Expr} (h : Phrase .items s (.array es)) :
      Phrase .primary ('[' :: (s ++ [']'])) (.array es)
  | parens {s : List Char} {e : Expr} (h : Phrase .expression s e) :
      Phrase .primary ('(' :: (s ++ [')'])) e
  | keyword {name : String} {e : Expr} (h : Parser.keyword? name = some e) :
      Phrase .primary name.toList e
  | constant {space name : String} {b b' : List Char} {x : Float} (hb : Blanks b) (hb' : Blanks b')
      (h : Parser.constant? space name = some x) :
      Phrase .primary (space.toList ++ (b ++ '.' :: (b' ++ name.toList))) (.literal (.number x))
  | call {name b s : List Char} {args : List Expr} (hname : IsName name) (hb : Blanks b)
      (h : Phrase .items s (.array args)) :
      Phrase .primary (name ++ (b ++ '(' :: (s ++ [')']))) (.call (String.ofList name) args)
  | mathCall {b b' name b'' s : List Char} {args : List Expr} (hb : Blanks b) (hb' : Blanks b')
      (hname : IsName name) (hb'' : Blanks b'') (h : Phrase .items s (.array args)) :
      Phrase .primary
        ("Math".toList ++ (b ++ '.' :: (b' ++ (name ++ (b'' ++ '(' :: (s ++ [')']))))))
        (.call (String.ofList name) args)
  | operand {b s b' : List Char} {e : Expr} (hb : Blanks b) (h : Phrase .primary s e)
      (hb' : Blanks b') : Phrase .operand (b ++ (s ++ b')) e
  | member {s b name b' : List Char} {e : Expr} (h : Phrase .operand s e) (hpoint : ¬ Whole s)
      (hb : Blanks b) (hname : IsName name) (hb' : Blanks b') :
      Phrase .operand (s ++ '.' :: (b ++ (name ++ b')))
        (.member e (.literal (.string (String.ofList name))))
  | index {s t b : List Char} {e key : Expr} (h : Phrase .operand s e)
      (hkey : Phrase .expression t key) (hb : Blanks b) :
      Phrase .operand (s ++ '[' :: (t ++ ']' :: b)) (.member e key)
  | method {s b name b' t b'' : List Char} {e : Expr} {args : List Expr} (h : Phrase .operand s e)
      (hpoint : ¬ Whole s) (hb : Blanks b) (hname : IsName name) (hb' : Blanks b')
      (hargs : Phrase .items t (.array args)) (hb'' : Blanks b'') :
      Phrase .operand (s ++ '.' :: (b ++ (name ++ (b' ++ '(' :: (t ++ ')' :: b'')))))
        (.method e (String.ofList name) args)
  | unsigned {s : List Char} {e : Expr} (h : Phrase .operand s e) : Phrase (.row []) s e
  | unary {b s : List Char} {e : Expr} (hb : Blanks b) (op : UnaryOp) (h : Phrase (.row []) s e) :
      Phrase (.row []) (b ++ (op.symbol.toList ++ s)) (.unary op e)
  | tighter {s : List Char} {e : Expr} (ops : List BinaryOp) {levels : List (List BinaryOp)}
      (h : Phrase (.row levels) s e) : Phrase (.row (ops :: levels)) s e
  | binary {s t : List Char} {lhs rhs : Expr} {op : BinaryOp} {ops : List BinaryOp}
      {levels : List (List BinaryOp)} (hop : op ∈ ops) (hlhs : Phrase (.row (ops :: levels)) s lhs)
      (hrhs : Phrase (.row levels) t rhs) :
      Phrase (.row (ops :: levels)) (s ++ (op.symbol.toList ++ t)) (.binary op lhs rhs)
  | row {s : List Char} {e : Expr} (h : Phrase (.row Parser.levels) s e) : Phrase .expression s e
  | conditional {s t u : List Char} {test consequent alternate : Expr}
      (htest : Phrase (.row Parser.levels) s test) (hconsequent : Phrase .expression t consequent)
      (halternate : Phrase .expression u alternate) :
      Phrase .expression (s ++ '?' :: (t ++ ':' :: u)) (.conditional test consequent alternate)
  | noItems {b : List Char} (hb : Blanks b) : Phrase .items b (.array [])
  | item {s : List Char} {e : Expr} (h : Phrase .expression s e) : Phrase .items s (.array [e])
  | moreItems {s t : List Char} {e next : Expr} {es : List Expr} (h : Phrase .expression s e)
      (hrest : Phrase .items t (.array (next :: es))) :
      Phrase .items (s ++ ',' :: t) (.array (e :: next :: es))

/-! ## Blanks around phrases -/

theorem whole_append {b : List Char} (hb : Blanks b) (s : List Char) :
    Whole (b ++ s) ↔ Whole s := by
  rw [Whole, Whole, hb.dropWhile_append]

/-- A character that is neither blank nor a digit. -/
theorem not_whole_of_mem {s : List Char} {c : Char} (hc : c ∈ s) (hblank : isTokenBlank c = false)
    (hdigit : c.isDigit = false) : ¬ Whole s := by
  rintro ⟨-, h⟩
  rw [← List.takeWhile_append_dropWhile (p := isTokenBlank) (l := s), List.mem_append] at hc
  rcases hc with hc | hc
  · rw [List.mem_takeWhile_imp hc] at hblank
    contradiction
  · rw [h c hc] at hdigit
    contradiction

theorem not_isDigit_of_isTokenBlank {c : Char} (h : isTokenBlank c = true) : c.isDigit = false := by
  simp only [isTokenBlank, Bool.or_eq_true, decide_eq_true_eq] at h
  rcases h with ((rfl | rfl) | rfl) | rfl <;> rfl

/-- Digits alone have no blanks behind them. -/
theorem eq_nil_of_whole_append {s b : List Char} (hb : Blanks b) (h : Whole (s ++ b)) : b = [] := by
  obtain ⟨hne, hdigits⟩ := h
  rw [List.dropWhile_append] at hne hdigits
  split at hne
  · exact absurd (List.dropWhile_eq_nil_iff.mpr hb) hne
  · rename_i hs
    rw [if_neg hs] at hdigits
    refine List.eq_nil_iff_forall_not_mem.mpr fun c hc ↦ ?_
    have hdigit := hdigits c (by simp [hc])
    rw [not_isDigit_of_isTokenBlank (hb c hc)] at hdigit
    contradiction

namespace Phrase

/-- Blanks behind a phrase belong to it. -/
theorem append {r : Rank} {s b : List Char} {e : Expr} (h : Phrase r s e) (hr : r ≠ .primary)
    (hb : Blanks b) : Phrase r (s ++ b) e := by
  induction h with
  | number | string | placeholder | array | parens | keyword | constant | call | mathCall =>
    exact absurd rfl hr
  | operand hb₁ h hb₂ => simpa using operand hb₁ h (hb₂.append hb)
  | member h hpoint hb₁ hname hb₂ => simpa using member h hpoint hb₁ hname (hb₂.append hb)
  | index h hkey hb₁ => simpa using index h hkey (hb₁.append hb)
  | method h hpoint hb₁ hname hb₂ hargs hb₃ =>
    simpa using method h hpoint hb₁ hname hb₂ hargs (hb₃.append hb)
  | unsigned _ ih => exact unsigned (ih (by simp))
  | unary hb₁ op _ ih => simpa using unary hb₁ op (ih (by simp))
  | tighter ops _ ih => exact tighter ops (ih (by simp))
  | binary hop hlhs _ _ ih => simpa using binary hop hlhs (ih (by simp))
  | row _ ih => exact row (ih (by simp))
  | conditional htest hconsequent _ _ _ ih =>
    simpa using conditional htest hconsequent (ih (by simp))
  | noItems hb₁ => exact noItems (hb₁.append hb)
  | item _ ih => exact item (ih (by simp))
  | moreItems h _ _ ih => simpa using moreItems h (ih (by simp))

/-- Blanks in front of a phrase belong to it. -/
theorem prepend {r : Rank} {s b : List Char} {e : Expr} (h : Phrase r s e) (hr : r ≠ .primary)
    (hb : Blanks b) : Phrase r (b ++ s) e := by
  induction h with
  | number | string | placeholder | array | parens | keyword | constant | call | mathCall =>
    exact absurd rfl hr
  | operand hb₁ h hb₂ => simpa using operand (hb.append hb₁) h hb₂
  | member _ hpoint hb₁ hname hb₂ ih =>
    simpa using member (ih (by simp)) (mt (whole_append hb _).mp hpoint) hb₁ hname hb₂
  | index _ hkey hb₁ ih _ => simpa using index (ih (by simp)) hkey hb₁
  | method _ hpoint hb₁ hname hb₂ hargs hb₃ ih _ =>
    simpa using method (ih (by simp)) (mt (whole_append hb _).mp hpoint) hb₁ hname hb₂ hargs hb₃
  | unsigned _ ih => exact unsigned (ih (by simp))
  | unary hb₁ op h _ => simpa using unary (hb.append hb₁) op h
  | tighter ops _ ih => exact tighter ops (ih (by simp))
  | binary hop _ hrhs ih _ => simpa using binary hop (ih (by simp)) hrhs
  | row _ ih => exact row (ih (by simp))
  | conditional _ hconsequent halternate ih _ _ =>
    simpa using conditional (ih (by simp)) hconsequent halternate
  | noItems hb₁ => exact noItems (hb.append hb₁)
  | item _ ih => exact item (ih (by simp))
  | moreItems _ hrest ih _ => simpa using moreItems (ih (by simp)) hrest

end Phrase

end MapStyle.Expr
