import Mathlib
import MapStyle.Proofs.Expr.Grammar
import MapStyle.Proofs.Placeholder.Reference

/-!
# References of an expression

The references of a text are found without a parser. Where the text is an expression they can be
told from its tree: they are the names of its placeholders from left to right, and the first of the
placeholders that is the identifier or a path with steps stands for the whole list.
-/

namespace MapStyle.Expr

/-- The mark of the identifier, and of a path that is more than the dollar sign. -/
def Reading.mark? : Reading → Option String
  | .name n => if n = "id" then some Placeholder.identifierMark else none
  | .path p => if 1 < p.source.toList.length then some Placeholder.pathMark else none
  | .feature => none

/-- The name that a placeholder without a mark is listed by. A path without a mark is the dollar
sign alone. -/
def Reading.label? : Reading → Option String
  | .name n => some n
  | .path _ => some "$"
  | .feature => none

/-- What the placeholders of an expression are listed as: the mark of the first one that has a mark,
or the names of all of them. -/
def listing (readings : List Reading) : List String :=
  match readings.findSome? Reading.mark? with
  | some mark => [mark]
  | none => readings.filterMap Reading.label?

/-! ## Marks and names along the readings -/

/-- The scan finds in the body of a placeholder the mark that its reading has. -/
theorem bind_markOf?_body? {r : Reading} (h : r.Spelled) :
    r.body?.bind Placeholder.markOf? = r.mark? := by
  cases r with
  | name n =>
    have hpath : Placeholder.isPath n.toList = false := by
      cases hn : n.toList with
      | nil => rfl
      | cons c rest =>
        have hc : c ≠ '$' := by simpa [Reading.Spelled, hn] using h
        simp [Placeholder.isPath, hc]
    have hid : n.toList = ['i', 'd'] ↔ n = "id" := by
      rw [← String.toList_inj]
      rfl
    simp [Reading.body?, Reading.mark?, Placeholder.markOf?, hpath, hid]
  | path p =>
    rcases h with hbare | hpath
    · simp [Reading.body?, Reading.mark?, hbare, Placeholder.markOf?, Placeholder.isPath]
    · have hlength : 1 < p.source.toList.length := by
        unfold Placeholder.isPath at hpath
        split at hpath
        · rename_i hsource
          simp [hsource]
        · contradiction
      rw [Reading.body?, Option.bind_some, Placeholder.markOf?_of_isPath hpath, Reading.mark?,
        if_pos hlength]
  | feature => rfl

/-- Where the scan finds no mark, the body of a placeholder is its name. -/
theorem map_ofList_body? {r : Reading} (h : r.Spelled) (hmark : r.mark? = none) :
    r.body?.map String.ofList = r.label? := by
  cases r with
  | name n => simp [Reading.body?, Reading.label?]
  | path p =>
    rcases h with hbare | hpath
    · rw [Reading.body?, hbare, Option.map_some, Reading.label?]
    · have hnone := bind_markOf?_body? (r := .path p) (.inr hpath)
      rw [hmark, Reading.body?, Option.bind_some, Placeholder.markOf?_of_isPath hpath] at hnone
      contradiction
  | feature => rfl

/-- The first mark among the bodies is the first among the readings. -/
theorem findSome?_bodiesOf {readings : List Reading} (h : ∀ r ∈ readings, r.Spelled) :
    (bodiesOf readings).findSome? Placeholder.markOf? = readings.findSome? Reading.mark? := by
  induction readings with
  | nil => rfl
  | cons r readings ih =>
    have hr := bind_markOf?_body? (h r (by simp))
    have hrest := ih fun s hs ↦ h s (by simp [hs])
    rw [List.findSome?_cons, ← hr, ← hrest, bodiesOf, List.filterMap_cons]
    cases r.body? with
    | none => rfl
    | some body => exact List.findSome?_cons

theorem map_ofList_bodiesOf {readings : List Reading} (h : ∀ r ∈ readings, r.Spelled)
    (hmark : ∀ r ∈ readings, r.mark? = none) :
    (bodiesOf readings).map String.ofList = readings.filterMap Reading.label? := by
  rw [bodiesOf, List.map_filterMap]
  exact List.filterMap_congr fun r hr ↦ map_ofList_body? (h r hr) (hmark r hr)

theorem ofBodies_bodiesOf {readings : List Reading} (h : ∀ r ∈ readings, r.Spelled) :
    Placeholder.ofBodies (bodiesOf readings) = listing readings := by
  rw [Placeholder.ofBodies, listing, findSome?_bodiesOf h]
  cases hmark : readings.findSome? Reading.mark? with
  | some mark => rfl
  | none => exact map_ofList_bodiesOf h (List.findSome?_eq_none_iff.mp hmark)

/-- The references of the text of an expression are the listing of its placeholders. -/
theorem references_of_parse? {source : String} {e : Expr} (h : parse? source = some e) :
    Placeholder.references source = listing e.reads := by
  rw [Placeholder.references, bodies_of_parse? h, ofBodies_bodiesOf (passes_of_parse? h).spelled]

theorem references_of_parse?_quoted :
    Placeholder.references "$\x7b a \x7d + '\\'$\x7bid\x7d' + $\x7ba\x7d[$\x7b$\x7d]"
      = ["a", "a", "$"] := by
  have h : parse? "$\x7b a \x7d + '\\'$\x7bid\x7d' + $\x7ba\x7d[$\x7b$\x7d]"
      = some (.binary .add
          (.binary .add (.placeholder "a") (.literal (.string "'$\x7bid\x7d")))
          (.member (.placeholder "a") (.path ⟨"$", []⟩))) := by
    cbv
  rw [references_of_parse? h]
  rfl

end MapStyle.Expr
