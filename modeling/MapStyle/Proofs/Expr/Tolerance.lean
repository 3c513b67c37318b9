import MapStyle.Expr.Eval

/-!
# Expressions that cannot fail

Where data is missing or of another kind than expected, a name or a member is `undefined`, a
comparison is false, and a conversion has a value all the same. An expression that is made of these
alone therefore has a value in every scope, and a truth value if it compares.
-/

namespace MapStyle.Expr

/-- The comparisons and the logical operators. -/
def BinaryOp.isTest : BinaryOp → Bool
  | strictEq | strictNe | lt | le | gt | ge | and | or => true
  | add | sub | mul | div | mod | matching | notMatching => false

/-- The functions that turn any value into a truth value, a number or a text. -/
def conversions : List String := ["Boolean", "Number", "String", "isNaN", "isFinite"]

/-- An expression made of literals, names, arrays, members, comparisons, logical operators and
conversions. -/
inductive Tolerant : Expr → Prop where
  | literal (value : Literal) : Tolerant (.literal value)
  | placeholder (name : String) : Tolerant (.placeholder name)
  | feature : Tolerant .feature
  | array {items : List Expr} (h : ∀ e ∈ items, Tolerant e) : Tolerant (.array items)
  | member {object key : Expr} (hobject : Tolerant object) (hkey : Tolerant key) :
      Tolerant (.member object key)
  | test {op : BinaryOp} {lhs rhs : Expr} (hop : op.isTest) (hlhs : Tolerant lhs)
      (hrhs : Tolerant rhs) : Tolerant (.binary op lhs rhs)
  | conversion {name : String} {args : List Expr} (hname : name ∈ conversions)
      (h : ∀ e ∈ args, Tolerant e) : Tolerant (.call name args)

variable {op : BinaryOp} {scope : Scope}

/-! ## Operators -/

theorem exists_comparison (holds : Float → Float → Bool) (v w : Value) :
    ∃ b, comparison holds v w = .bool b := by
  fun_cases comparison holds v w with
  | case1 x y => exact ⟨holds x y, rfl⟩
  | case2 => exact ⟨false, rfl⟩

/-- A comparison or logical operator takes any two values, and gives a truth value. -/
theorem exists_applyBinary (h : op.isTest) (v w : Value) :
    ∃ b, applyBinary op v w = .ok (.bool b) := by
  have hcomparison (holds : Float → Float → Bool) :
      ∃ b, Except.ok (comparison holds v w) = (.ok (.bool b) : Except Fault Value) := by
    obtain ⟨b, hb⟩ := exists_comparison holds v w
    exact ⟨b, congrArg Except.ok hb⟩
  cases op with
  | strictEq | strictNe | and | or => exact ⟨_, rfl⟩
  | lt | le | gt | ge => exact hcomparison _
  | add | sub | mul | div | mod | matching | notMatching => contradiction

/-- What the first operand decides alone is a truth value. -/
theorem exists_of_decided? {v answer : Value} (h : decided? op v = some answer) :
    ∃ b, answer = .bool b := by
  revert h
  fun_cases decided? op v with
  | case1 | case4 | case6 => exact nofun
  | case2 | case3 | case5 =>
    rintro ⟨⟩
    exact ⟨_, rfl⟩

/-- Operands that have values give a comparison or logical operator a truth value. -/
theorem exists_evalAt_binary (h : op.isTest) {lhs rhs : Expr} {site : List Nat} {v w : Value}
    (hv : evalAt scope (0 :: site) lhs = .ok v) (hw : evalAt scope (1 :: site) rhs = .ok w) :
    ∃ b, evalAt scope site (.binary op lhs rhs) = .ok (.bool b) := by
  cases hdecided : decided? op v with
  | some answer =>
    obtain ⟨b, rfl⟩ := exists_of_decided? hdecided
    refine ⟨b, ?_⟩
    rw [evalAt, hv]
    simp [bind, Except.bind, hdecided, pure, Except.pure]
  | none =>
    obtain ⟨b, hb⟩ := exists_applyBinary h v w
    refine ⟨b, ?_⟩
    rw [evalAt, hv, hw]
    simp [bind, Except.bind, hdecided, hb]

/-! ## Calls -/

/-- A conversion takes any number of any values. -/
theorem exists_callFunction {name : String} (h : name ∈ conversions) (site : List Nat)
    (args : List Value) : ∃ v, callFunction site name args = .ok v := by
  simp only [conversions, List.mem_cons, List.not_mem_nil, or_false] at h
  rcases h with rfl | rfl | rfl | rfl | rfl <;> exact ⟨_, rfl⟩

/-! ## Expressions -/

/-- If each item has a value, all of them together have. -/
theorem exists_evalItems {es : List Expr}
    (h : ∀ e ∈ es, ∀ site, ∃ v, evalAt scope site e = .ok v) (site : List Nat) (n : Nat) :
    ∃ vs, evalItems scope site n es = .ok vs := by
  induction es generalizing n with
  | nil => exact ⟨[], by rw [evalItems]⟩
  | cons e rest ih =>
    obtain ⟨v, hv⟩ := h e List.mem_cons_self (n :: site)
    obtain ⟨vs, hvs⟩ := ih (fun d hd ↦ h d (List.mem_cons_of_mem e hd)) (n + 1)
    refine ⟨v :: vs, ?_⟩
    rw [evalItems, hv, hvs]
    rfl

/-- A tolerant expression has a value at every place of a larger one. -/
theorem Tolerant.exists_evalAt {e : Expr} (h : Tolerant e) (scope : Scope) (site : List Nat) :
    ∃ v, evalAt scope site e = .ok v := by
  induction h generalizing site with
  | literal value => exact ⟨value.value, by rw [evalAt]⟩
  | placeholder name => exact ⟨scope.resolve name, by rw [evalAt]⟩
  | feature => exact ⟨.object scope.properties, by rw [evalAt]⟩
  | array _ ih =>
    obtain ⟨vs, hvs⟩ := exists_evalItems ih site 0
    exact ⟨.array vs, by rw [evalAt, hvs]; rfl⟩
  | member _ _ ihobject ihkey =>
    obtain ⟨key, hkey⟩ := ihkey (0 :: site)
    obtain ⟨target, htarget⟩ := ihobject (1 :: site)
    exact ⟨memberOf target key, by rw [evalAt, hkey, htarget]; rfl⟩
  | test hop _ _ ihlhs ihrhs =>
    obtain ⟨v, hv⟩ := ihlhs (0 :: site)
    obtain ⟨w, hw⟩ := ihrhs (1 :: site)
    obtain ⟨b, hb⟩ := exists_evalAt_binary hop hv hw
    exact ⟨.bool b, hb⟩
  | conversion hname _ ih =>
    obtain ⟨vs, hvs⟩ := exists_evalItems ih site 0
    obtain ⟨v, hv⟩ := exists_callFunction hname site vs
    exact ⟨v, by rw [evalAt, hvs]; exact hv⟩

/-- Whatever data there is, a tolerant expression has a value, and one that compares or joins truth
values has a truth value. -/
theorem exists_eval_of_tolerant {e : Expr} (h : Tolerant e) (scope : Scope) :
    ∃ v, eval scope e = .ok v ∧ ∀ op lhs rhs, e = .binary op lhs rhs → ∃ b, v = .bool b := by
  obtain ⟨v, hv⟩ := h.exists_evalAt scope []
  refine ⟨v, hv, ?_⟩
  rintro op lhs rhs rfl
  cases h with
  | test hop hlhs hrhs =>
    obtain ⟨l, hl⟩ := hlhs.exists_evalAt scope [0]
    obtain ⟨r, hr⟩ := hrhs.exists_evalAt scope [1]
    obtain ⟨b, hb⟩ := exists_evalAt_binary hop hl hr
    exact ⟨b, Except.ok.inj (hv.symm.trans hb)⟩

/-- A name that leads nowhere, an item before the first, and a member under `null`. -/
theorem exists_eval_of_missing :
    let item : Expr := .member (.array [.feature]) (.call "Number" [.literal (.string "-1.5")])
    let e : Expr := .binary .or (.binary .lt (.placeholder "height.top") item)
      (.binary .strictNe (.call "String" [.member .feature (.literal .null)]) (.array []))
    let scope : Scope := ⟨none, [("height", .array [.bool true])]⟩
    Tolerant e ∧ ∃ b, eval scope e = .ok (.bool b) := by
  intro item e scope
  have hnumber : Tolerant (.call "Number" [.literal (.string "-1.5")]) :=
    .conversion (by decide) (List.forall_mem_singleton.mpr (.literal _))
  have hitem : Tolerant item :=
    .member (.array (List.forall_mem_singleton.mpr .feature)) hnumber
  have htext : Tolerant (.call "String" [.member .feature (.literal .null)]) :=
    .conversion (by decide) (List.forall_mem_singleton.mpr (.member .feature (.literal _)))
  have h : Tolerant e :=
    .test rfl (.test rfl (.placeholder _) hitem) (.test rfl htext (.array nofun))
  obtain ⟨v, hv, hbool⟩ := exists_eval_of_tolerant h scope
  obtain ⟨b, rfl⟩ := hbool _ _ _ rfl
  exact ⟨h, b, hv⟩

end MapStyle.Expr
