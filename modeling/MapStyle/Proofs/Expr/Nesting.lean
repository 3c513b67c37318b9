import MapStyle.Proofs.Expr.Grammar
import MapStyle.Proofs.Text.Reader

/-!
# Nested expressions

The reader of expressions asks for a nested expression only behind a bracket, a comma, a question
mark or a colon, hence only on a shorter text. The check of the length in its definition, which is
there for the recursion, therefore never fails: the reader is its own reader of nested expressions.
-/

namespace MapStyle.Expr.Parser

open Text Reader

variable {α : Type} {n : Nat} {p q nested other : Reader Expr}

/-- A reader that the scan for placeholders follows leaves an end of its text. -/
theorem shrinking_of_spells {α : Type} {p : Reader α} {r : α → List Reading} (h : Spells [] p r) :
    Shrinking p :=
  fun _ _ _ hp ↦ (h.elim hp).suffix.length_le

theorem leadingOp_eq_ok {s rest : List Char} {op : UnaryOp} (h : leadingOp s = .ok op rest) :
    ∃ before after, Blanks before ∧ Blanks after ∧
      s = before ++ (op.symbol.toList ++ (after ++ rest)) := by
  obtain ⟨p, hp, h⟩ := choice_eq_ok h
  simp only [List.mem_cons, List.not_mem_nil, or_false] at hp
  rcases hp with rfl | rfl | rfl <;>
    obtain ⟨c, t, hc, hop⟩ := bind_eq_ok.mp h <;> cases hop <;> exact symbol_eq_ok hc

theorem consuming_leadingOp : Consuming leadingOp := by
  intro s rest op h
  obtain ⟨before, after, -, -, rfl⟩ := leadingOp_eq_ok h
  have hne : op.symbol.toList.length ≠ 0 := by cases op <;> simp [UnaryOp.symbol]
  simp only [List.length_append]
  omega

/-! ## Readers that get a reader of nested expressions -/

theorem agree_enclosed {p q : Reader α} (h : Agree n p q) (opening closing : Char) :
    Agree (n + 1) (enclosed opening closing p) (enclosed opening closing q) :=
  Agree.bind_of_consuming (consuming_symbol opening) fun _ ↦ h.bind_left _

theorem agree_list (h : Agree n nested other) (hnested : Shrinking nested) :
    Agree n (list nested) (list other) :=
  h.separated hnested (shrinking_of_spells (Spells.symbol (by decide)))

theorem agree_arguments (h : Agree n nested other) (hnested : Shrinking nested) :
    Agree (n + 1) (arguments nested) (arguments other) :=
  agree_enclosed (agree_list h hnested) '(' ')'

theorem shrinking_name : Shrinking name := shrinking_of_spells Spells.name

theorem agree_spaceMember (h : Agree n nested other) (hnested : Shrinking nested)
    (space : String) : Agree (n + 1) (spaceMember nested space) (spaceMember other space) := by
  have harguments := agree_arguments h hnested
  refine Agree.bind (Agree.refl _ _) (shrinking_of_spells (Spells.symbol (by decide))) fun _ ↦ ?_
  exact Agree.bind (Agree.refl _ _) shrinking_name fun _ ↦ harguments.attempt.bind_left _

/-- The arguments of a call lie behind a parenthesis, in a shorter text. -/
theorem agree_named (h : Agree n nested other) (hnested : Spells [] nested reads) :
    Agree (n + 1) (named nested) (named other) := by
  have hshrinking := shrinking_of_spells hnested
  have hattempt := (agree_arguments h hshrinking).attempt
  refine Agree.bind (Agree.refl _ _) shrinking_name fun word ↦ ?_
  have hargs := shrinking_of_spells (Spells.attempt (Spells.arguments hnested))
  refine hattempt.bind hargs fun args? ↦ ?_
  cases args? with
  | some args => exact Agree.refl _ _
  | none =>
    dsimp only
    split
    · exact agree_spaceMember h hshrinking word
    · exact Agree.refl _ _

/-- What is nested in a primary expression lies behind a bracket or a parenthesis. -/
theorem agree_primary (h : Agree n nested other) (hnested : Spells [] nested reads) :
    Agree (n + 1) (primary nested) (primary other) := by
  have hlist := agree_list h (shrinking_of_spells hnested)
  refine Agree.orElse (Agree.refl _ _) (Agree.orElse (Agree.refl _ _) ?_)
  refine Agree.orElse (Agree.refl _ _) (Agree.orElse ?_ (Agree.orElse ?_ (Agree.orElse ?_ ?_)))
  · exact (agree_enclosed hlist '[' ']').bind_left _
  · exact agree_enclosed h '(' ')'
  · exact agree_named h hnested
  · exact Agree.refl _ _

theorem agree_suffix (h : Agree n nested other) (hnested : Shrinking nested) :
    Agree (n + 1) (suffix nested) (suffix other) := by
  refine Agree.orElse ?_ ((agree_enclosed h '[' ']').bind_left _)
  refine Agree.bind (Agree.refl _ _) (shrinking_of_spells (Spells.symbol (by decide))) fun _ ↦ ?_
  refine Agree.bind (Agree.refl _ _) shrinking_name fun word ↦ ?_
  exact (agree_arguments h hnested).optional.bind_left _

theorem agree_operand (h : Agree n nested other) (hnested : Spells [] nested reads) :
    Agree (n + 1) (operand nested) (operand other) := by
  have hprimary := (agree_primary h hnested).token
  have hsuffixes := (agree_suffix h (shrinking_of_spells hnested)).many
    (shrinking_of_spells (Spells.suffix hnested))
  refine hprimary.bind (shrinking_of_spells (Spells.token (Spells.primary hnested))) fun e ↦ ?_
  exact hsuffixes.bind_left _

/-! ## Operators -/

/-- By induction over the text: only the operand behind the signs has anything nested. -/
theorem agree_signed (h : Agree n nested other) (hnested : Spells [] nested reads) :
    Agree (n + 1) (signed nested) (signed other) := by
  intro s
  induction hlength : s.length using Nat.strong_induction_on generalizing s with
  | _ length ih =>
    intro hs
    rw [signed, signed]
    cases hop : leadingOp s with
    | miss => exact agree_operand h hnested s (by omega)
    | abort => rfl
    | ok op rest =>
      have hlt := consuming_leadingOp hop
      dsimp only
      rw [if_pos hlt, if_pos hlt, ih rest.length (by omega) rest rfl (by omega)]

/-- Readers that make the same of each operand make the same of a row. -/
theorem agreeIn_rowRest {D : List Char → Prop} {operator : Reader BinaryOp}
    (hoperator : Stays D operator) (h : AgreeIn D p q) (hp : Stays D p) (lhs : Expr) :
    AgreeIn D (rowRest operator p lhs) (rowRest operator q lhs) := by
  intro s
  induction hlength : s.length using Nat.strong_induction_on generalizing s lhs with
  | _ length ih =>
    intro hs
    rw [rowRest, rowRest]
    cases hop : operator s with
    | miss => rfl
    | abort => rfl
    | ok op rest =>
      have hrest := hoperator hs hop
      dsimp only
      rw [← h hrest]
      cases hrhs : p rest with
      | miss => rfl
      | abort => rfl
      | ok rhs left =>
        dsimp only
        split
        · exact ih left.length (by omega) (.binary op lhs rhs) rfl (hp hrest hrhs)
        · rfl

/-- By induction over the levels, from the tightest on. -/
theorem agree_row (h : Agree n nested other) (hnested : Spells [] nested reads)
    (levels : List (List BinaryOp)) : Agree (n + 1) (row nested levels) (row other levels) := by
  induction levels with
  | nil => exact agree_signed h hnested
  | cons ops tighter ih =>
    have hshrinking := shrinking_of_spells (Spells.row hnested tighter)
    have hoperator := shrinking_of_spells (Spells.operatorOf ops)
    exact ih.bind hshrinking fun lhs ↦
      Agree.of_on (agreeIn_rowRest (hoperator.stays _) ih.on (hshrinking.stays _) lhs)

theorem agree_branches (h : Agree n nested other) (hnested : Shrinking nested) :
    Agree (n + 1) (branches nested) (branches other) := by
  refine Agree.bind_of_consuming (consuming_symbol '?') fun _ ↦ h.bind hnested fun consequent ↦ ?_
  refine Agree.bind (Agree.refl _ _) (shrinking_of_spells (Spells.symbol (by decide))) fun _ ↦ ?_
  exact h.bind_left _

theorem agree_conditional (h : Agree n nested other) (hnested : Spells [] nested reads) :
    Agree (n + 1) (conditional nested) (conditional other) := by
  have hbranches := agree_branches h (shrinking_of_spells hnested)
  refine (agree_row h hnested levels).bind
    (shrinking_of_spells (Spells.row hnested levels)) fun test ↦ ?_
  exact hbranches.optional.bind_left _

/-- Every nested expression stands on a shorter text, so the reader of expressions may as well be
asked for it without a check. -/
theorem expression_eq (s : List Char) : expression s = conditional expression s := by
  rw [expression]
  refine (agree_conditional (n := s.length) ?_ Spells.expression s (Nat.lt_succ_self _)).symm
  exact fun t ht ↦ (if_pos ht).symm

end MapStyle.Expr.Parser
