import Mathlib.Data.List.Basic
import MapStyle.Placeholder.Reference

/-!
# What the references of a text tell

The references of a text are the names of its placeholders, unless one of the placeholders reads the
identifier or is a path; then a mark stands for all of them. A list of references without marks
therefore misses no placeholder. The identifier is noticed only where no path stands before it.
-/

namespace MapStyle.Placeholder

theorem markOf?_cases {body : List Char} {mark : String} (h : markOf? body = some mark) :
    mark = identifierMark ∨ mark = pathMark := by
  unfold markOf? at h
  split at h
  · exact .inl (Option.some.inj h).symm
  · split at h
    · exact .inr (Option.some.inj h).symm
    · contradiction

theorem markOf?_of_isPath {body : List Char} (h : isPath body = true) :
    markOf? body = some pathMark := by
  have hbody : body ≠ ['i', 'd'] := by
    rintro rfl
    contradiction
  rw [markOf?, if_neg hbody, if_pos h]

/-- Without a mark among the references every placeholder is listed by its name, and none of them is
the identifier or a path. -/
theorem ofBodies_of_no_mark (bodies : List (List Char)) (hid : identifierMark ∉ ofBodies bodies)
    (hpath : pathMark ∉ ofBodies bodies) :
    ofBodies bodies = bodies.map String.ofList ∧ ∀ body ∈ bodies, markOf? body = none := by
  cases hmark : bodies.findSome? markOf? with
  | none => exact ⟨by rw [ofBodies, hmark], List.findSome?_eq_none_iff.mp hmark⟩
  | some mark =>
    obtain ⟨body, -, hbody⟩ := List.exists_of_findSome?_eq_some hmark
    rcases markOf?_cases hbody with rfl | rfl
    · exact absurd (by simp [ofBodies, hmark]) hid
    · exact absurd (by simp [ofBodies, hmark]) hpath

/-- The identifier is noticed where no path stands before it. -/
theorem identifierMark_mem_ofBodies {bodies : List (List Char)}
    (horder : bodies.Pairwise fun body later ↦ isPath body = true → later ≠ ['i', 'd'])
    (hid : ['i', 'd'] ∈ bodies) : identifierMark ∈ ofBodies bodies := by
  suffices h : bodies.findSome? markOf? = some identifierMark by simp [ofBodies, h]
  induction bodies with
  | nil => contradiction
  | cons body bodies ih =>
    rw [List.pairwise_cons] at horder
    rw [List.findSome?_cons]
    rcases List.mem_cons.mp hid with rfl | hlater
    · rfl
    · by_cases hbody : body = ['i', 'd']
      · rw [hbody]
        rfl
      · have hnotPath : isPath body ≠ true := fun h ↦ horder.1 _ hlater h rfl
        have hnone : markOf? body = none := by rw [markOf?, if_neg hbody, if_neg hnotPath]
        rw [hnone]
        exact ih horder.2 hlater

end MapStyle.Placeholder
