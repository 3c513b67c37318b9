import MapStyle.Expr.Eval

/-!
# What an expression reads

An expression reads its scope at the names and the paths of its placeholders, and where it says
`feature`. Its value depends on nothing else of the scope: two scopes that agree on what the
expression reads give it one value, or one fault.
-/

namespace MapStyle.Expr

/-- One place at which an expression reads its scope. -/
inductive Reading where
  | name (n : String)
  | path (p : Path)
  | feature

mutual

/-- What an expression reads, from left to right. -/
def reads : Expr → List Reading
  | .literal _ => []
  | .placeholder name => [.name name]
  | .path p => [.path p]
  | .feature => [.feature]
  | .array items => readsOf items
  | .unary _ operand => reads operand
  | .binary _ lhs rhs => reads lhs ++ reads rhs
  | .conditional test consequent alternate => reads test ++ (reads consequent ++ reads alternate)
  | .member object key => reads object ++ reads key
  | .call _ args => readsOf args
  | .method object _ args => reads object ++ readsOf args

def readsOf : List Expr → List Reading
  | [] => []
  | e :: rest => reads e ++ readsOf rest

end

/-- Two scopes give the same where one place reads them. -/
def Reading.Agrees (s t : Scope) : Reading → Prop
  | .name n => s.resolve n = t.resolve n
  | .path p => p.selectOne (.object s.properties) = p.selectOne (.object t.properties)
  | .feature => s.properties = t.properties

/-- Two scopes give the same at all places of a list. -/
def AgreeOn (s t : Scope) (readings : List Reading) : Prop := ∀ r ∈ readings, r.Agrees s t

theorem agreeOn_append {s t : Scope} {l r : List Reading} :
    AgreeOn s t (l ++ r) ↔ AgreeOn s t l ∧ AgreeOn s t r := by
  simp only [AgreeOn, List.mem_append, or_imp, forall_and]

variable {s t : Scope}

mutual

/-- By induction over the tree: scopes that agree on its readings give the same outcome. -/
theorem evalAt_congr (site : List Nat) : ∀ {e : Expr}, AgreeOn s t e.reads →
    evalAt s site e = evalAt t site e
  | .literal value, _ => by rw [evalAt, evalAt]
  | .placeholder name, h => by
    have hname : s.resolve name = t.resolve name := h (.name name) (by simp [reads])
    rw [evalAt, evalAt, hname]
  | .path p, h => by
    have hpath : p.selectOne (.object s.properties) = p.selectOne (.object t.properties) :=
      h (.path p) (by simp [reads])
    rw [evalAt, evalAt, hpath]
  | .feature, h => by
    have hproperties : s.properties = t.properties := h .feature (by simp [reads])
    rw [evalAt, evalAt, hproperties]
  | .array items, h => by
    rw [reads] at h
    rw [evalAt, evalAt, evalItems_congr site 0 h]
  | .unary op operand, h => by
    rw [reads] at h
    rw [evalAt, evalAt, evalAt_congr _ h]
  | .binary op lhs rhs, h => by
    rw [reads, agreeOn_append] at h
    rw [evalAt, evalAt, evalAt_congr _ h.1, evalAt_congr _ h.2]
  | .conditional test consequent alternate, h => by
    rw [reads, agreeOn_append, agreeOn_append] at h
    rw [evalAt, evalAt, evalAt_congr _ h.1, evalAt_congr _ h.2.1, evalAt_congr _ h.2.2]
  | .member object key, h => by
    rw [reads, agreeOn_append] at h
    rw [evalAt, evalAt, evalAt_congr _ h.1, evalAt_congr _ h.2]
  | .call name args, h => by
    rw [reads] at h
    rw [evalAt, evalAt, evalItems_congr site 0 h]
  | .method object name args, h => by
    rw [reads, agreeOn_append] at h
    rw [evalAt, evalAt, evalAt_congr _ h.1, evalItems_congr site 1 h.2]

theorem evalItems_congr (site : List Nat) (n : Nat) : ∀ {es : List Expr}, AgreeOn s t (readsOf es) →
    evalItems s site n es = evalItems t site n es
  | [], _ => by rw [evalItems, evalItems]
  | e :: rest, h => by
    rw [readsOf, agreeOn_append] at h
    rw [evalItems, evalItems, evalAt_congr _ h.1, evalItems_congr site (n + 1) h.2]

end

/-- The value of an expression depends only on what the expression reads. -/
theorem eval_congr {e : Expr} (h : AgreeOn s t e.reads) : eval s e = eval t e :=
  evalAt_congr [] h

end MapStyle.Expr
