import Mathlib
import MapStyle.Proofs.Expr.Soundness

/-!
# Precedence

A flat text is a row of operands with operators between them and no parentheses around any part of
the row. The tree of such a text keeps its operands and its operators in their order, and groups
them by the levels of the operators: an operator has operators of its own level only on its left,
and looser ones on neither side.

An operand is a number, a string, a placeholder or an expression in parentheses, with operators in
front of it. A placeholder is one that the grammar admits: a body that begins with the dollar sign
spells a path. Blanks are the ones of the grammar: spaces, tabs and the two characters that end
lines.
-/

namespace MapStyle.Expr

open Text Expr.Parser

/-- How tightly an operator binds, from the loosest level on. -/
def BinaryOp.level : BinaryOp → Nat
  | .or => 0
  | .and => 1
  | .strictEq | .strictNe | .matching | .notMatching => 2
  | .lt | .le | .gt | .ge => 3
  | .add | .sub => 4
  | .mul | .div | .mod => 5

/-! ## Flat texts -/

/-- The text is an operand without operators in front of it, and denotes the tree. -/
inductive Atom : List Char → Expr → Prop where
  | number (n : Numeral) : Atom n.text (.literal (.number n.value))
  | string {quote : Char} {s cs : List Char} (hquote : IsQuote quote) (h : Quoted quote s cs) :
      Atom (quote :: (s ++ [quote])) (.literal (.string (String.ofList cs)))
  | placeholder {body : List Char} {e : Expr} (hbody : ∀ c ∈ body, c ≠ '}')
      (h : placeholderOf? body = some e) : Atom ('$' :: '{' :: (body ++ ['}'])) e
  | parens {source : String} {e : Expr} (h : parse? source = some e) :
      Atom ('(' :: (source.toList ++ [')'])) e

/-- The text is an operand with any number of operators in front of it, and blanks around every
token. -/
inductive Prefixed : List Char → Expr → Prop where
  | atom {b s b' : List Char} {e : Expr} (hb : Blanks b) (h : Atom s e) (hb' : Blanks b') :
      Prefixed (b ++ (s ++ b')) e
  | unary {b s : List Char} {e : Expr} (hb : Blanks b) (op : UnaryOp) (h : Prefixed s e) :
      Prefixed (b ++ (op.symbol.toList ++ s)) (.unary op e)

/-- An operand of a flat text, as it is written. -/
structure Operand where
  /-- The text, with the blanks around it. -/
  text : List Char
  /-- The tree that the text denotes. -/
  tree : Expr
  prefixed : Prefixed text tree

/-- The text of a row: an operand, and operators each with the operand behind it. -/
def flatText (first : Operand) (steps : List (BinaryOp × Operand)) : List Char :=
  first.text ++ steps.flatMap fun step ↦ step.1.symbol.toList ++ step.2.text

/-! ## Grouping -/

/-- A way to group a row. -/
inductive Shape where
  | leaf (operand : Operand)
  /-- An operator between the two parts of the row that are its operands. -/
  | node (op : BinaryOp) (lhs rhs : Shape)

namespace Shape

def tree : Shape → Expr
  | leaf operand => operand.tree
  | node op lhs rhs => .binary op lhs.tree rhs.tree

def first : Shape → Operand
  | leaf operand => operand
  | node _ lhs _ => lhs.first

/-- The operators of the row from left to right, each with the operand behind it. -/
def steps : Shape → List (BinaryOp × Operand)
  | leaf _ => []
  | node op lhs rhs => lhs.steps ++ (op, rhs.first) :: rhs.steps

/-- The operator that is applied last. -/
def op? : Shape → Option BinaryOp
  | leaf _ => none
  | node op _ _ => some op

/-- Every operator binds at most as tightly as the one on its left, and less tightly than the one on
its right. -/
def Grouped : Shape → Prop
  | leaf _ => True
  | node op lhs rhs =>
    ((∀ o ∈ lhs.op?, op.level ≤ o.level) ∧ ∀ o ∈ rhs.op?, op.level < o.level) ∧
      lhs.Grouped ∧ rhs.Grouped

theorem mem_steps_of_op? {shape : Shape} {op : BinaryOp} (h : op ∈ shape.op?) :
    ∃ operand, (op, operand) ∈ shape.steps := by
  cases shape with
  | leaf operand => contradiction
  | node op' lhs rhs =>
    cases h
    exact ⟨rhs.first, by simp [steps]⟩

theorem Grouped.node {op : BinaryOp} {lhs rhs : Shape} (hlhs : lhs.Grouped) (hrhs : rhs.Grouped)
    (hleft : ∀ step ∈ lhs.steps, op.level ≤ step.1.level)
    (hright : ∀ step ∈ rhs.steps, op.level < step.1.level) : (node op lhs rhs).Grouped := by
  refine ⟨⟨fun o ho ↦ ?_, fun o ho ↦ ?_⟩, hlhs, hrhs⟩
  · obtain ⟨operand, hmem⟩ := mem_steps_of_op? ho
    exact hleft (o, operand) hmem
  · obtain ⟨operand, hmem⟩ := mem_steps_of_op? ho
    exact hright (o, operand) hmem

end Shape

/-! ## The tree of a flat text -/

theorem Atom.phrase {s : List Char} {e : Expr} (h : Atom s e) : Phrase .primary s e := by
  cases h with
  | number n => exact .number n
  | string hquote h => exact .string hquote h
  | placeholder hbody h => exact .placeholder hbody h
  | parens h => exact .parens (parse?_eq_some_iff.mp h)

theorem Prefixed.phrase {s : List Char} {e : Expr} (h : Prefixed s e) : Phrase (.row []) s e := by
  induction h with
  | atom hb h hb' => exact .unsigned (.operand hb h.phrase hb')
  | unary hb op _ ih => exact .unary hb op ih

theorem flatText_append (first : Operand) (front back : List (BinaryOp × Operand)) (op : BinaryOp)
    (operand : Operand) :
    flatText first (front ++ (op, operand) :: back)
      = flatText first front ++ (op.symbol.toList ++ flatText operand back) := by
  simp [flatText]

theorem BinaryOp.level_lt (op : BinaryOp) : op.level < levels.length := by cases op <;> decide

theorem BinaryOp.drop_levels (op : BinaryOp) :
    ∃ ops, op ∈ ops ∧ levels.drop op.level = ops :: levels.drop (op.level + 1) := by
  cases op <;> exact ⟨_, by decide, rfl⟩

/-- The last element without the property, if there is one. -/
theorem forall_or_exists_last {α : Type} (p : α → Prop) (l : List α) :
    (∀ a ∈ l, p a) ∨ ∃ front a back, l = front ++ a :: back ∧ ¬ p a ∧ ∀ b ∈ back, p b := by
  induction l with
  | nil => exact .inl (by simp)
  | cons a l ih =>
    rcases ih with hall | ⟨front, b, back, rfl, hb, hback⟩
    · by_cases ha : p a
      · exact .inl (by simpa using ⟨ha, hall⟩)
      · exact .inr ⟨[], a, l, rfl, ha, hall⟩
    · exact .inr ⟨a :: front, b, back, rfl, hb, hback⟩

/-- A row with operators of the levels from some level on is grouped at the last operator of the
loosest level that occurs. -/
theorem exists_shape {depth k : Nat} (hk : k + depth = levels.length) (first : Operand)
    (steps : List (BinaryOp × Operand)) (hsteps : ∀ step ∈ steps, k ≤ step.1.level) :
    ∃ shape : Shape, shape.first = first ∧ shape.steps = steps ∧ shape.Grouped ∧
      Phrase (.row (levels.drop k)) (flatText first steps) shape.tree := by
  induction depth generalizing k first steps with
  | zero =>
    have hnil : steps = [] := by
      refine List.eq_nil_iff_forall_not_mem.mpr fun step hstep ↦ ?_
      have hle := hsteps step hstep
      have hlt := step.1.level_lt
      omega
    have htext : flatText first steps = first.text := by simp [flatText, hnil]
    rw [htext, List.drop_eq_nil_of_le (by omega)]
    exact ⟨.leaf first, rfl, hnil.symm, trivial, first.prefixed.phrase⟩
  | succ depth ih =>
    -- The part behind the last operator of this level is a row of tighter levels, and the part in
    -- front of it is a shorter row of this level.
    induction hlength : steps.length using Nat.strong_induction_on generalizing first steps with
    | _ length ihlength =>
      rcases forall_or_exists_last (fun step ↦ k + 1 ≤ step.1.level) steps with
        htighter | ⟨front, ⟨op, operand⟩, back, rfl, hop, hback⟩
      · obtain ⟨shape, hfirst, hrow, hgrouped, hphrase⟩ := ih (by omega) first steps htighter
        refine ⟨shape, hfirst, hrow, hgrouped, ?_⟩
        rw [List.drop_eq_getElem_cons (by omega)]
        exact hphrase.tighter _
      · have hlevel : op.level = k := by
          have hle : k ≤ op.level := hsteps (op, operand) (by simp)
          have hlt : ¬ k + 1 ≤ op.level := hop
          omega
        have hshorter : front.length < length := by
          rw [← hlength, List.length_append, List.length_cons]
          omega
        have hfront : ∀ step ∈ front, k ≤ step.1.level :=
          fun step hstep ↦ hsteps step (by simp [hstep])
        obtain ⟨lhs, rfl, rfl, hlhs, hleft⟩ := ihlength front.length hshorter first front hfront rfl
        obtain ⟨rhs, rfl, rfl, hrhs, hright⟩ := ih (by omega) operand back hback
        obtain ⟨ops, hmem, hdrop⟩ := op.drop_levels
        rw [hlevel] at hdrop
        refine ⟨.node op lhs rhs, rfl, rfl, hlhs.node hrhs (by rwa [hlevel]) (by rwa [hlevel]), ?_⟩
        rw [hdrop] at hleft
        rw [flatText_append, hdrop]
        exact .binary hmem hleft hright

/-- A flat text is accepted. Its tree holds the operands and the operators of the text in their
order, and groups them by the levels of the operators. -/
theorem parse?_flatText (first : Operand) (steps : List (BinaryOp × Operand)) :
    ∃ shape : Shape, parse? (String.ofList (flatText first steps)) = some shape.tree ∧
      (shape.first = first ∧ shape.steps = steps) ∧ shape.Grouped := by
  obtain ⟨shape, hfirst, hsteps, hgrouped, hphrase⟩ :=
    exists_shape (Nat.zero_add _) first steps fun _ _ ↦ Nat.zero_le _
  refine ⟨shape, parse?_of_phrase ?_, ⟨hfirst, hsteps⟩, hgrouped⟩
  rw [String.toList_ofList]
  exact .row hphrase

/-- A placeholder with two operators in front of it, and blanks. -/
def Operand.negated : Operand where
  text := " !- $\x7ba\x7d ".toList
  tree := .unary .not (.unary .negate (.placeholder "a"))
  prefixed :=
    have hplaceholder : Atom ['$', '{', 'a', '}'] (.placeholder "a") :=
      @Atom.placeholder ['a'] _ (by simp) rfl
    have hatom : Prefixed ([' '] ++ (['$', '{', 'a', '}'] ++ [' '])) (.placeholder "a") :=
      .atom (by decide) hplaceholder (by decide)
    .unary (b := [' ']) (by decide) .not (.unary (b := []) blanks_nil .negate hatom)

/-- An expression in parentheses. -/
def Operand.nested : Operand where
  text := "($\x7bb\x7d || true)".toList
  tree := .binary .or (.placeholder "b") (.literal (.bool true))
  prefixed :=
    have hsource : parse? "$\x7bb\x7d || true"
        = some (.binary .or (.placeholder "b") (.literal (.bool true))) := by cbv
    have hatom : Atom ('(' :: ("$\x7bb\x7d || true".toList ++ [')']))
        (.binary .or (.placeholder "b") (.literal (.bool true))) := .parens hsource
    have hprefixed := Prefixed.atom blanks_nil hatom blanks_nil
    hprefixed

theorem parse?_flatText_negated :
    flatText .negated [(.sub, .nested), (.mul, .negated)]
      = " !- $\x7ba\x7d -($\x7bb\x7d || true)* !- $\x7ba\x7d ".toList ∧
    ∃ shape : Shape, parse? " !- $\x7ba\x7d -($\x7bb\x7d || true)* !- $\x7ba\x7d "
        = some shape.tree ∧
      (shape.first = .negated ∧ shape.steps = [(.sub, .nested), (.mul, .negated)]) ∧
      shape.Grouped := by
  have htext : flatText .negated [(.sub, .nested), (.mul, .negated)]
      = " !- $\x7ba\x7d -($\x7bb\x7d || true)* !- $\x7ba\x7d ".toList := by cbv
  obtain ⟨shape, htree, hrow, hgrouped⟩ :=
    parse?_flatText .negated [(.sub, .nested), (.mul, .negated)]
  rw [htext, String.ofList_toList] at htree
  exact ⟨htext, shape, htree, hrow, hgrouped⟩

example : parse? "$\x7ba\x7d - $\x7bb\x7d*!$\x7bc\x7d -$\x7bd\x7d" = some (.binary .sub
    (.binary .sub (.placeholder "a")
      (.binary .mul (.placeholder "b") (.unary .not (.placeholder "c"))))
    (.placeholder "d")) := by
  cbv

end MapStyle.Expr
