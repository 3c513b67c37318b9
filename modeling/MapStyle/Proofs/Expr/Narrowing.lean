import MapStyle.Proofs.Expr.Reading
import MapStyle.Proofs.Placeholder.Narrow

/-!
# Values under narrowed properties

An expression that reads its scope by names alone cannot tell the narrowed properties from all
properties, as long as each of its names is among the references. Properties that are narrowed to
the same table therefore give it the same value, or the same fault.
-/

namespace MapStyle.Expr

open Placeholder

variable {e : Expr} {references : List String}

theorem agreeOn_narrowed (hreads : ∀ r ∈ e.reads, ∃ name ∈ references, r = .name name)
    (hmark : identifierMark ∉ references) (id : String) (scope : Scope) :
    AgreeOn (narrowed references id scope) scope e.reads := by
  intro r hr
  obtain ⟨name, hname, rfl⟩ := hreads r hr
  exact resolve_narrowed hmark hname id scope

/-- The properties that the references keep give an expression the value, or the fault, that all
properties give it, and so do any other properties of which the references keep the same. -/
theorem eval_narrowed (hreads : ∀ r ∈ e.reads, ∃ name ∈ references, r = .name name)
    (hmark : identifierMark ∉ references) :
    (∀ id scope, eval (narrowed references id scope) e = eval scope e) ∧
    ∀ id (s t : Scope), s.id = t.id →
      narrow references id s.properties = narrow references id t.properties →
      eval s e = eval t e := by
  have hnarrowed (id : String) (scope : Scope) :
      eval (narrowed references id scope) e = eval scope e :=
    eval_congr (agreeOn_narrowed hreads hmark id scope)
  refine ⟨hnarrowed, fun id s t hid hkept ↦ ?_⟩
  calc
    eval s e = eval (narrowed references id s) e := (hnarrowed id s).symm
    _ = eval (narrowed references id t) e := by rw [narrowed, narrowed, hid, hkept]
    _ = eval t e := hnarrowed id t

/-- A key that holds a point, a name that leads into the property before its point, and a name that
nothing has. -/
theorem eval_narrowed_pointed :
    let e : Expr := .binary .or (.binary .strictEq (.placeholder "a.b") (.placeholder "a.c"))
      (.unary .not (.placeholder "d"))
    let kept : Table Json :=
      [("a", .object [("b", .null), ("c", .bool true)]), ("a.b", .bool true)]
    let properties : Table Json :=
      [("a", .object [("b", .null), ("c", .bool true)]), ("a.b", .bool true), ("e", .null)]
    let others : Table Json :=
      [("a", .object [("b", .null), ("c", .bool true)]), ("a.b", .bool true), ("id", .null)]
    narrow ["a.b", "a.c", "d"] "f" properties = kept ∧
      narrow ["a.b", "a.c", "d"] "f" others = kept ∧
      eval ⟨some "f", narrow ["a.b", "a.c", "d"] "f" properties⟩ e = .ok (.bool true) ∧
      eval ⟨some "f", properties⟩ e = eval ⟨some "f", others⟩ e := by
  intro e kept properties others
  have hreads : ∀ r ∈ e.reads, ∃ name ∈ ["a.b", "a.c", "d"], r = .name name := by
    simp [e, reads]
  have hproperties : narrow ["a.b", "a.c", "d"] "f" properties = kept := rfl
  have hothers : narrow ["a.b", "a.c", "d"] "f" others = kept := rfl
  have hvalue : eval ⟨some "f", properties⟩ e = .ok (.bool true) := rfl
  obtain ⟨hnarrowed, hsame⟩ := eval_narrowed hreads (by decide)
  refine ⟨hproperties, hothers, ?_, ?_⟩
  · exact (hnarrowed "f" ⟨some "f", properties⟩).trans hvalue
  · exact hsame "f" ⟨some "f", properties⟩ ⟨some "f", others⟩ rfl (hproperties.trans hothers.symm)

end MapStyle.Expr
