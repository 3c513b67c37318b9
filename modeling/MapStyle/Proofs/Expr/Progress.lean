import MapStyle.Proofs.Expr.Soundness

/-!
# Progress of the grammar

The rules of the grammar refer to each other in circles, and yet the reading of every text ends. A
rule that reads something takes at least one character from the front of the text. Where a rule
refers to another one, it does so behind something that was taken, or else the rule that it refers
to binds tighter. A text of a given length is therefore read at a bounded depth, and whatever stands
below that depth makes no difference. The checks of lengths in the readers, which are there for the
recursion, never fail: the rules and the loops can be followed without them.
-/

namespace MapStyle.Expr.Parser

open Text Reader

variable {α β : Type}

/-! ## What stands behind something that was taken -/

/-- The first text is what is left of the second one, with something taken from its front. -/
def Behind (t s : List Char) : Prop := t <:+ s ∧ t.length < s.length

/-- Where the reader reads a value, it takes something from the front of the text. -/
def Advances (p : Reader α) : Prop :=
  ∀ ⦃s rest : List Char⦄ ⦃a : α⦄, p s = .ok a rest → Behind rest s

/-- What the reader leaves is an end of the text. -/
def Trailing (p : Reader α) : Prop :=
  ∀ ⦃s rest : List Char⦄ ⦃a : α⦄, p s = .ok a rest → rest <:+ s

theorem Behind.trans_suffix {s t u : List Char} (h : Behind t s) (hu : u <:+ t) : Behind u s :=
  ⟨hu.trans h.1, Nat.lt_of_le_of_lt hu.length_le h.2⟩

theorem Behind.of_suffix {s t u : List Char} (h : Behind u t) (ht : t <:+ s) : Behind u s :=
  ⟨h.1.trans ht, Nat.lt_of_lt_of_le h.2 ht.length_le⟩

theorem Advances.trailing {p : Reader α} (h : Advances p) : Trailing p := fun _ _ _ hp ↦ (h hp).1

theorem trailing_of_spells {p : Reader α} {r : α → List Reading} (h : Spells [] p r) :
    Trailing p :=
  fun _ _ _ hp ↦ (h.elim hp).suffix

theorem advances_of_spells {p : Reader α} {r : α → List Reading} (h : Spells [] p r)
    (hp : Consuming p) : Advances p :=
  fun _ _ _ hok ↦ ⟨trailing_of_spells h hok, hp hok⟩

theorem advances_symbol (c : Char) : Advances (symbol c) := by
  intro s rest d h
  obtain ⟨before, after, -, -, rfl⟩ := symbol_eq_ok h
  refine ⟨⟨before ++ c :: after, by simp⟩, consuming_symbol c h⟩

theorem trailing_name : Trailing Reader.name := trailing_of_spells Spells.name

/-! ## The rules -/

/-- The rules of the grammar. -/
inductive Rule where
  | expression
  /-- Operands with operators of these levels between them; without levels, one operand with the
  operators in front of it. -/
  | row (levels : List (List BinaryOp)) (isTail : levels <:+ Parser.levels)
  | operand
  | primary
  | named
  | member (space : String)
  | suffix
  | arguments

namespace Rule

/-- What a rule gives for a text. -/
abbrev Value : Rule → Type
  | suffix => Suffix
  | arguments => List Expr
  | _ => Expr

/-- How loosely a rule binds. -/
def looseness : Rule → ℕ
  | expression => Parser.levels.length + 4
  | row levels _ => levels.length + 3
  | operand => 2
  | primary => 1
  | _ => 0

end Rule

/-- A reader for every rule. -/
abbrev Readers := (r : Rule) → Reader r.Value

/-- The readers of the parser. -/
def readers : Readers
  | .expression => Parser.expression
  | .row levels _ => Parser.row Parser.expression levels
  | .operand => Parser.operand Parser.expression
  | .primary => Parser.primary Parser.expression
  | .named => Parser.named Parser.expression
  | .member space => Parser.spaceMember Parser.expression space
  | .suffix => Parser.suffix Parser.expression
  | .arguments => Parser.arguments Parser.expression

/-- The rules followed by one step: each is read as it is written down, with the given readers for
the rules that it refers to. -/
def follow (f : Readers) : Readers
  | .expression => do
    let test ← f (.row levels (List.suffix_refl _))
    match ← Reader.optional (branches (f .expression)) with
    | some (consequent, alternate) => Reader.yield (.conditional test consequent alternate)
    | none => Reader.yield test
  | .row [] isTail => Reader.orElse
    (do
      let op ← leadingOp
      let e ← f (.row [] isTail)
      Reader.yield (.unary op e))
    (f .operand)
  | .row (ops :: tighter) isTail => do
    let lhs ← f (.row tighter ((List.suffix_cons ops tighter).trans isTail))
    rowRest (operatorOf ops) (f (.row tighter ((List.suffix_cons ops tighter).trans isTail))) lhs
  | .operand => do
    let e ← Reader.token (f .primary)
    let suffixes ← Reader.many (f .suffix)
    Reader.yield (suffixes.foldl Suffix.attach e)
  | .primary => Reader.choice [
    do let x ← number; Reader.yield (.literal (.number x)),
    do let s ← string; Reader.yield (.literal (.string s)),
    placeholder,
    do let items ← enclosed '[' ']' (list (f .expression)); Reader.yield (.array items),
    enclosed '(' ')' (f .expression),
    f .named]
  | .named => do
    let name ← Reader.name
    match ← Reader.attempt (f .arguments) with
    | some args => Reader.yield (.call name args)
    | none =>
      if name = "Math" || name = "Number" then f (.member name)
      else
        match keyword? name with
        | some e => Reader.yield e
        | none => Reader.fail
  | .member space => do
    let _ ← Reader.symbol '.'
    let name ← Reader.name
    match ← Reader.attempt (f .arguments) with
    | some args => if space = "Math" then Reader.yield (.call name args) else Reader.fail
    | none =>
      match constant? space name with
      | some x => Reader.yield (.literal (.number x))
      | none => Reader.fail
  | .suffix => Reader.orElse
    (do
      let _ ← Reader.symbol '.'
      let name ← Reader.name
      match ← Reader.optional (f .arguments) with
      | some args => Reader.yield (.method name args)
      | none => Reader.yield (.member name))
    (do
      let key ← enclosed '[' ']' (f .expression)
      Reader.yield (.index key))
  | .arguments => enclosed '(' ')' (list (f .expression))

/-! ## The parser follows its rules -/

/-- Where an operator stands in front, there is no operand without it. -/
theorem operand_miss_of_leadingOp {nested : Reader Expr} {s rest : List Char} {op : UnaryOp}
    (h : leadingOp s = .ok op rest) : operand nested s = .miss := by
  obtain ⟨before, after, hbefore, -, rfl⟩ := leadingOp_eq_ok h
  have hprimary : primary nested (op.symbol.toList ++ (after ++ rest)) = .miss := by
    cases op with
    | not => exact primary_miss (c := '!') rfl rfl rfl (by simp [IsQuote]) (by simp) _
    | negate => exact primary_miss (c := '-') rfl rfl rfl (by simp [IsQuote]) (by simp) _
    | plus => exact primary_miss (c := '+') rfl rfl rfl (by simp [IsQuote]) (by simp) _
  refine bind_of_miss ?_
  have hblank : (op.symbol.toList ++ (after ++ rest)).dropWhile isTokenBlank
      = op.symbol.toList ++ (after ++ rest) := by
    cases op <;> exact dropWhile_blank_cons rfl _
  rw [token_eq, hbefore.dropWhile_append, hblank, hprimary]
  rfl

/-- The operators in front of an operand are read one by one, without a check of the length. -/
theorem signed_eq (nested : Reader Expr) :
    signed nested = Reader.orElse
      (do
        let op ← leadingOp
        let e ← signed nested
        Reader.yield (.unary op e))
      (operand nested) := by
  funext s
  cases hop : leadingOp s with
  | ok op rest =>
    rw [signed_of_ok hop, Reader.orElse, bind_of_ok hop, bind_apply]
    cases signed nested rest with
    | ok e left => rfl
    | miss => exact (operand_miss_of_leadingOp hop).symm
    | abort => rfl
  | miss => rw [signed_of_miss hop, orElse_of_miss (bind_of_miss hop)]
  | abort => rw [signed, Reader.orElse, bind_apply, hop]

/-- The parser reads every rule as it is written down. -/
theorem readers_eq_follow : readers = follow readers := by
  funext r
  match r with
  | .expression => exact funext expression_eq
  | .row [] _ => exact signed_eq expression
  | .row (_ :: _) _ => rfl
  | .operand | .primary | .named | .member _ | .suffix | .arguments => rfl

/-! ## Every rule takes something -/

theorem consuming_of_primaryBefore {p : Reader Expr}
    (h : ∀ ⦃s rest : List Char⦄ ⦃e : Expr⦄, p s = .ok e rest → PrimaryBefore s e rest) :
    Consuming p := by
  intro s rest e hp
  obtain ⟨before, t, after, -, -, rfl, ht, -⟩ := h hp
  obtain ⟨c, u, rfl, -⟩ := ht.opens_primary
  simp only [List.length_append, List.length_cons]
  omega

theorem consuming_of_takes {r : Rank} {p : Reader Expr} (h : TakesPhrase r p)
    (hr : ∀ ⦃t : List Char⦄ ⦃e : Expr⦄, Phrase r t e → t ≠ []) : Consuming p := by
  intro s rest e hp
  obtain ⟨t, rfl, ht⟩ := h hp
  have hpos := List.length_pos_iff.mpr (hr ht)
  simp only [List.length_append]
  omega

theorem consuming_expression : Consuming expression := by
  refine consuming_of_takes takes_expression fun t e ht ↦ ?_
  cases ht with
  | row h =>
    obtain ⟨c, u, hu, -⟩ := h.opens_row
    rintro rfl
    contradiction
  | conditional => simp

theorem consuming_row (levels : List (List BinaryOp)) :
    Consuming (Parser.row expression levels) := by
  refine consuming_of_takes (takes_row takes_expression levels) fun t e ht ↦ ?_
  obtain ⟨c, u, hu, -⟩ := ht.opens_row
  rintro rfl
  contradiction

theorem consuming_operand : Consuming (operand expression) := by
  refine consuming_of_takes (takes_operand takes_expression) fun t e ht ↦ ?_
  obtain ⟨c, u, hu, -⟩ := ht.opens_operand
  rintro rfl
  contradiction

/-- A member of a space takes its point at least. -/
theorem consuming_spaceMember (space : String) : Consuming (spaceMember expression space) := by
  have hargs := shrinking_of_spells (Spells.attempt (Spells.arguments Spells.expression))
  refine (consuming_symbol '.').bind fun _ ↦ shrinking_name.bind fun word ↦ ?_
  refine hargs.bind fun args? ↦ ?_
  cases args? with
  | some args =>
    dsimp only
    split
    · exact shrinking_yield _
    · exact shrinking_fail
  | none =>
    dsimp only
    split
    · exact shrinking_yield _
    · exact shrinking_fail

/-- Whatever a rule reads, it takes something from the front of the text. -/
theorem advances_readers (r : Rule) : Advances (readers r) := by
  have hspells := Spells.expression
  match r with
  | .expression => exact advances_of_spells hspells consuming_expression
  | .row levels _ => exact advances_of_spells (Spells.row hspells levels) (consuming_row levels)
  | .operand => exact advances_of_spells (Spells.operand hspells) consuming_operand
  | .primary =>
    exact advances_of_spells (Spells.primary hspells)
      (consuming_of_primaryBefore fun _ _ _ ↦ takes_primary takes_expression)
  | .named =>
    exact advances_of_spells (Spells.named hspells)
      (consuming_of_primaryBefore fun _ _ _ ↦ takes_named takes_expression)
  | .member space =>
    exact advances_of_spells (Spells.spaceMember hspells space) (consuming_spaceMember space)
  | .suffix => exact advances_of_spells (Spells.suffix hspells) consuming_suffix_expression
  | .arguments =>
    exact advances_of_spells (Spells.arguments hspells)
      (consuming_enclosed (shrinking_of_spells (Spells.list hspells)) '(' ')')

/-! ## What a rule asks for -/

section

variable {s : List Char} {p p' q q' : Reader α}

theorem Trailing.stays (h : Trailing p) (s : List Char) : Stays (Behind · s) p :=
  fun _ _ _ ht hp ↦ ht.trans_suffix (h hp)

/-- Behind a reader that takes something, agreement behind the text is enough. -/
theorem bind_congr_behind {f g : α → Reader β} (h : p s = q s) (hp : Advances p)
    (hf : ∀ a, AgreeIn (Behind · s) (f a) (g a)) : (p >>= f) s = (q >>= g) s := by
  rw [bind_apply, bind_apply, ← h]
  cases hps : p s with
  | ok a rest => exact hf a (hp hps)
  | miss => rfl
  | abort => rfl

theorem bind_congr_left (h : p s = q s) (f : α → Reader β) : (p >>= f) s = (q >>= f) s := by
  rw [bind_apply, bind_apply, h]

theorem orElse_congr (h : p s = q s) (h' : p' s = q' s) : orElse p p' s = orElse q q' s := by
  rw [Reader.orElse, Reader.orElse, h, h']

theorem enclosed_congr (h : AgreeIn (Behind · s) p q) (opening closing : Char) :
    enclosed opening closing p s = enclosed opening closing q s :=
  bind_congr_behind rfl (advances_symbol opening) fun _ ↦ h.bind_left _

theorem agreeIn_branches {p q : Reader Expr} (h : AgreeIn (Behind · s) p q) (hp : Trailing p) :
    AgreeIn (Behind · s) (branches p) (branches q) := by
  have hsymbol (c : Char) : Stays (Behind · s) (symbol c) := (advances_symbol c).trailing.stays s
  refine (AgreeIn.refl _ _).bind (hsymbol '?') fun _ ↦ h.bind (hp.stays s) fun consequent ↦ ?_
  exact (AgreeIn.refl _ _).bind (hsymbol ':') fun _ ↦ h.bind_left _

end

/-- The first rule and text come below the second ones: the text stands behind something that was
taken, or it is the same text and the rule binds tighter. -/
def Below (x y : Rule × List Char) : Prop :=
  Behind x.2 y.2 ∨ x.2 = y.2 ∧ x.1.looseness < y.1.looseness

theorem below_of_suffix {q r : Rule} {t s : List Char} (ht : t <:+ s)
    (h : q.looseness < r.looseness) : Below (q, t) (r, s) := by
  by_cases hlt : t.length < s.length
  · exact .inl ⟨ht, hlt⟩
  · exact .inr ⟨ht.eq_of_length_le (not_lt.mp hlt), h⟩

/-- What a rule makes of a text depends only on what the rules make of the texts that come below,
provided that they take something wherever they read. -/
def AsksBelow (r : Rule) (s : List Char) : Prop :=
  ∀ ⦃f g : Readers⦄, (∀ q, Advances (f q)) → (∀ q t, Below (q, t) (r, s) → f q t = g q t) →
    follow f r s = follow g r s

theorem advances_leadingOp : Advances leadingOp :=
  advances_of_spells Spells.leadingOp consuming_leadingOp

/-- A name leaves a proper suffix. -/
theorem advances_name : Advances Reader.name := by
  intro s rest word h
  obtain ⟨cs, rfl, hname, -⟩ := isName_of_name h
  refine ⟨List.suffix_append cs rest, ?_⟩
  cases cs with
  | nil => exact hname.elim
  | cons c cs =>
    simp only [List.length_append, List.length_cons]
    omega

theorem Advances.token {p : Reader α} (h : Advances p) : Advances (token p) := by
  intro s rest a hp
  obtain ⟨after, -, hok⟩ := token_eq_ok hp
  have hrest := (h hok).trans_suffix (List.suffix_append after rest)
  exact hrest.of_suffix (List.dropWhile_suffix isTokenBlank)

theorem Trailing.attempt {p : Reader α} (h : Trailing p) : Trailing (attempt p) := by
  intro s rest a hp
  rcases attempt_eq_ok hp with ⟨b, -, hok⟩ | ⟨-, rfl⟩
  · exact h hok
  · exact List.suffix_refl _

/-- Case by case, no rule looks at anything that is not below. -/
theorem asksBelow (r : Rule) (s : List Char) : AsksBelow r s := by
  intro f g hf hfg
  have hbehind (q : Rule) : AgreeIn (Behind · s) (f q) (g q) := fun t ht ↦ hfg q t (.inl ht)
  have hhere (q : Rule) (hq : q.looseness < r.looseness) : f q s = g q s :=
    hfg q s (.inr ⟨rfl, hq⟩)
  have hstays (q : Rule) : Stays (Behind · s) (f q) := (hf q).trailing.stays s
  have hlist : AgreeIn (Behind · s) (list (f .expression)) (list (g .expression)) :=
    (hbehind .expression).separated (hstays _) ((advances_symbol ',').trailing.stays s)
  match r with
  | .expression =>
    refine bind_congr_behind (hhere _ (by simp [Rule.looseness])) (hf _) fun test ↦ ?_
    exact (agreeIn_branches (hbehind _) (hf .expression).trailing).optional.bind_left _
  | .row [] isTail =>
    refine orElse_congr ?_ (hhere _ (by simp [Rule.looseness]))
    exact bind_congr_behind rfl advances_leadingOp fun op ↦ (hbehind _).bind_left _
  | .row (ops :: tighter) isTail =>
    refine bind_congr_behind (hhere _ (by simp [Rule.looseness])) (hf _) fun lhs ↦ ?_
    have hoperator := (trailing_of_spells (Spells.operatorOf ops)).stays s
    exact agreeIn_rowRest hoperator (hbehind _) (hstays _) lhs
  | .operand =>
    have hprimary : Reader.token (f .primary) s = Reader.token (g .primary) s := by
      have hbelow := below_of_suffix (q := .primary) (r := .operand)
        (List.dropWhile_suffix (l := s) isTokenBlank) (by simp [Rule.looseness])
      rw [token_eq, token_eq, hfg _ _ hbelow]
    refine bind_congr_behind hprimary (hf .primary).token fun e ↦ ?_
    exact ((hbehind .suffix).many (hstays _)).bind_left _
  | .primary =>
    refine orElse_congr rfl (orElse_congr rfl (orElse_congr rfl ?_))
    refine orElse_congr (bind_congr_left (enclosed_congr hlist '[' ']') _) ?_
    refine orElse_congr (enclosed_congr (hbehind .expression) '(' ')') ?_
    exact orElse_congr (hhere .named (by simp [Rule.looseness])) rfl
  | .named =>
    refine bind_congr_behind rfl advances_name fun word ↦ ?_
    have hargs := (hf .arguments).trailing.attempt.stays s
    refine (hbehind .arguments).attempt.bind hargs fun args? ↦ ?_
    cases args? with
    | some args => exact AgreeIn.refl _ _
    | none =>
      dsimp only
      split
      · exact hbehind (.member word)
      · exact AgreeIn.refl _ _
  | .member space =>
    refine bind_congr_behind rfl (advances_symbol '.') fun _ ↦ ?_
    refine (AgreeIn.refl _ _).bind (trailing_name.stays s) fun word ↦ ?_
    exact (hbehind .arguments).attempt.bind_left _
  | .suffix =>
    refine orElse_congr ?_ (bind_congr_left (enclosed_congr (hbehind .expression) '[' ']') _)
    refine bind_congr_behind rfl (advances_symbol '.') fun _ ↦ ?_
    refine (AgreeIn.refl _ _).bind (trailing_name.stays s) fun word ↦ ?_
    exact (hbehind .arguments).optional.bind_left _
  | .arguments => exact enclosed_congr hlist '(' ')'

/-! ## The depth of a reading -/

/-- A bound for how deep the rules refer to each other on a text. -/
def depth (x : Rule × List Char) : ℕ := (levels.length + 5) * x.2.length + x.1.looseness

theorem looseness_lt (r : Rule) : r.looseness < levels.length + 5 := by
  cases r with
  | row levels isTail =>
    have hlength := isTail.length_le
    simp only [Rule.looseness]
    omega
  | _ => simp [Rule.looseness]

theorem depth_lt {x y : Rule × List Char} (h : Below x y) : depth x < depth y := by
  have hx := looseness_lt x.1
  rcases h with ⟨-, hlt⟩ | ⟨heq, hlt⟩
  · have hmul := Nat.mul_le_mul_left (levels.length + 5) (Nat.succ_le_of_lt hlt)
    simp only [depth, Nat.mul_succ] at hmul ⊢
    omega
  · simp only [depth, heq]
    omega

/-- The rules, followed as often as the depth demands, give what the parser gives, whatever the
readers at the bottom are. -/
theorem follow_iterate (f : Readers) (r : Rule) (s : List Char) {n : ℕ} (h : depth (r, s) < n) :
    (follow^[n] f) r s = readers r s := by
  induction n generalizing r s with
  | zero => contradiction
  | succ n ih =>
    rw [Function.iterate_succ_apply', readers_eq_follow]
    refine (asksBelow r s advances_readers fun q t hbelow ↦ ?_).symm
    have hlt := depth_lt hbelow
    exact (ih q t (by omega)).symm

/-! ## Loops -/

/-- Items are read as long as the reader applies, without a check that they take something. -/
def Unrolls (p : Reader α) : Prop :=
  many p = (do
    match ← Reader.optional p with
    | some a => do
      let as ← many p
      Reader.yield (a :: as)
    | none => Reader.yield [] : Reader (List α))

/-- Operands are read as long as there are operators in front of them, without a check that they
take something. -/
def RowUnrolls (operator : Reader BinaryOp) (tighter : Reader Expr) : Prop :=
  ∀ lhs, rowRest operator tighter lhs = (do
    match ← Reader.optional operator with
    | some op => do
      let rhs ← tighter
      rowRest operator tighter (.binary op lhs rhs)
    | none => Reader.yield lhs : Reader Expr)

/-- A reader that takes something can be repeated without a guard. -/
theorem unrolls_of_consuming {p : Reader α} (hp : Consuming p) : Unrolls p := by
  funext s
  rw [bind_apply]
  cases hps : p s with
  | ok a rest =>
    rw [many_of_ok hps (hp hps), optional_of_ok hps]
    dsimp only
    rw [bind_apply]
    cases many p rest <;> rfl
  | miss =>
    rw [many_of_miss hps, optional_of_miss hps]
    rfl
  | abort => rw [many, Reader.optional, hps]

/-- An operator takes something, so its row needs no guard either. -/
theorem rowUnrolls_of_consuming {operator : Reader BinaryOp} {tighter : Reader Expr}
    (hoperator : Consuming operator) (htighter : Shrinking tighter) :
    RowUnrolls operator tighter := by
  intro lhs
  funext s
  rw [bind_apply, rowRest]
  cases hop : operator s with
  | ok op rest =>
    rw [optional_of_ok hop]
    dsimp only
    rw [bind_apply]
    cases hrhs : tighter rest with
    | ok rhs left =>
      have hlt : left.length < s.length := Nat.lt_of_le_of_lt (htighter hrhs) (hoperator hop)
      dsimp only
      rw [if_pos hlt]
    | miss => rfl
    | abort => rfl
  | miss =>
    rw [optional_of_miss hop]
    rfl
  | abort => rw [Reader.optional, hop]

/-! ## Main statement -/

theorem whole_token_congr {p q : Reader α} {s : List Char}
    (h : p (s.dropWhile isTokenBlank) = q (s.dropWhile isTokenBlank)) :
    whole (token p) s = whole (token q) s := by
  rw [whole, whole, token_eq, token_eq, h]

/-- The grammar makes progress. Whatever a rule reads, it leaves a strictly shorter end of the text;
the parser is what the rules say, without checks of lengths; and a rule asks other rules only for
strictly shorter ends of its text, or for the same text where they bind tighter. So the reading of
every text ends at a depth that its length bounds: the rules followed so far, or further, give what
the parser gives, whatever is put below. Suffixes, items behind commas and operands behind operators
are read as long as there are any. And the parser accepts a text only as a phrase from its first
character to its last. -/
theorem grammar_progress :
    (∀ r, Advances (readers r)) ∧
    readers = follow readers ∧
    (∀ r s, AsksBelow r s) ∧
    (∀ f r s n, (follow^[depth (r, s) + 1 + n] f) r s = readers r s) ∧
    (∀ f source n, parse? source = whole
      (token ((follow^[depth (.expression, source.toList) + 1 + n] f) .expression)) source.toList) ∧
    Unrolls (readers .suffix) ∧
    Unrolls (symbol ',' >>= fun _ ↦ readers .expression) ∧
    (∀ ops tighter isTail, RowUnrolls (operatorOf ops) (readers (.row tighter isTail))) ∧
    (∀ source e, parse? source = some e ↔ Phrase .expression source.toList e) := by
  have hends (f : Readers) (r : Rule) (s : List Char) (n : ℕ) :
      (follow^[depth (r, s) + 1 + n] f) r s = readers r s :=
    follow_iterate f r s (by omega)
  refine ⟨advances_readers, readers_eq_follow, asksBelow, hends, fun f source n ↦ ?_, ?_, ?_, ?_,
    fun _ _ ↦ parse?_eq_some_iff⟩
  · refine whole_token_congr (follow_iterate f .expression _ ?_).symm
    have hle := Nat.mul_le_mul_left (levels.length + 5) (length_dropWhile_blank_le source.toList)
    simp only [depth]
    omega
  · exact unrolls_of_consuming consuming_suffix_expression
  · exact unrolls_of_consuming ((consuming_symbol ',').bind fun _ ↦ shrinking_expression)
  · exact fun ops tighter _ ↦
      rowUnrolls_of_consuming (consuming_operatorOf ops) (shrinking_row tighter)

end MapStyle.Expr.Parser
