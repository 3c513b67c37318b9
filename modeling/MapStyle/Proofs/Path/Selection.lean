import Mathlib.Data.List.Basic
import Mathlib.Tactic.Ring
import Mathlib.Tactic.Zify
import MapStyle.Path.Basic
import MapStyle.Proofs.Json.Tabled
import MapStyle.Proofs.Listing

/-!
# Positions that a path selects

A position in a value is a sequence of keys and item numbers that lead down from the value. A path
selects the values at the positions that can be cut into pieces, one for each segment of the path,
such that each segment takes its piece. Every way of cutting counts once, so a value comes more than
once exactly if its position can be cut in several ways. For that the path must have two segments
that descend to any depth.
-/

namespace MapStyle

/-! ## Positions -/

namespace Json

/-- A step from a value to one right below it. -/
inductive Step where
  /-- To the member of an object under a key. -/
  | key (name : String)
  | item (position : ℕ)
  deriving Repr, DecidableEq

def below? : Json → Step → Option Json
  | object members, .key name => Table.get? members name
  | array items, .item i => items[i]?
  | _, _ => none

/-- The value at a position. -/
def at? (v : Json) : List Step → Option Json
  | [] => some v
  | step :: rest => (v.below? step).bind fun w ↦ w.at? rest

variable {v w : Json} {step : Step} {position : List Step}

theorem at?_singleton (v : Json) (step : Step) : v.at? [step] = v.below? step := by
  simp [at?]

theorem at?_cons_eq_some :
    v.at? (step :: position) = some w ↔ ∃ u, v.below? step = some u ∧ u.at? position = some w := by
  rw [at?, Option.bind_eq_some_iff]

theorem at?_append (v : Json) (position rest : List Step) :
    v.at? (position ++ rest) = (v.at? position).bind fun u ↦ u.at? rest := by
  induction position generalizing v with
  | nil => rfl
  | cons step position ih =>
    rw [List.cons_append, at?, at?, Option.bind_assoc]
    exact congrArg _ (funext ih)

/-- Members and items of tables are tables. -/
theorem Tabled.below? (h : v.Tabled) (hw : v.below? step = some w) : w.Tabled := by
  cases v with
  | object members =>
    cases step with
    | key name => exact h.of_get? hw
    | item i => cases hw
  | array items =>
    cases step with
    | key name => cases hw
    | item i => exact tabled_array_iff.mp h w (List.mem_of_getElem? hw)
  | _ => cases step <;> cases hw

theorem Tabled.at? (h : v.Tabled) (hw : v.at? position = some w) : w.Tabled := by
  induction position generalizing v with
  | nil =>
    cases hw
    exact h
  | cons step position ih =>
    obtain ⟨u, hu, hw⟩ := at?_cons_eq_some.mp hw
    exact ih (h.below? hu) hw

/-- The values one step below are listed by the steps to them. -/
theorem lists_children (h : v.Tabled) :
    Lists v.children fun step w ↦ v.below? step = some w := by
  cases v with
  | object members =>
    refine ((Lists.members h.1).rename (f := Step.key) fun _ _ ↦ Step.key.inj).congr ?_
    intro step w
    cases step <;> simp [below?]
  | array items =>
    refine ((Lists.items items).rename (f := Step.item) fun _ _ ↦ Step.item.inj).congr ?_
    intro step w
    cases step <;> simp [below?]
  | _ => exact Lists.nil fun step _ hw ↦ by cases step <;> cases hw

end Json

namespace Path

open Json

/-! ## Segments -/

/-- The number that a text spells: decimal digits, at least one, after an optional plus. -/
def SpellsPosition (text : String) (i : ℕ) : Prop :=
  ∃ digits, digits ≠ [] ∧ (∀ c ∈ digits, c.isDigit = true) ∧ Decimal.ofDigits digits = i ∧
    (text.toList = digits ∨ text.toList = '+' :: digits)

/-- A position as it is given, counted from the end if it is negative. -/
def fromEnd (length : ℕ) (i : ℤ) : ℤ := if i < 0 then length + i else i

/-- The bound of a slice: counted from the end if it is negative, and held within the array. -/
def heldWithin (length : ℕ) (i : ℤ) : ℤ := max 0 (min (fromEnd length i) length)

namespace Segment

/-- The sequences of steps that a segment takes down from a value. -/
inductive Takes : Segment → Json → List Step → Prop where
  | member (name : String) (members : List (String × Json)) :
    Takes (.child name) (.object members) [.key name]
  | spelled {name : String} {i : ℕ} (items : List Json) (h : SpellsPosition name i) :
    Takes (.child name) (.array items) [.item i]
  | index {n : ℤ} {i : ℕ} {items : List Json} (h : i = fromEnd items.length n) :
    Takes (.index n) (.array items) [.item i]
  /-- From the first bound on every so many items, as long as the last bound is not reached. -/
  | slice {start stop step : Option ℤ} {i : ℕ} {items : List Json} (times : ℕ)
    (h : i = (start.map (heldWithin items.length)).getD 0 + times * max 1 (step.getD 1))
    (hlt : i < (stop.map (heldWithin items.length)).getD items.length) :
    Takes (.slice start stop step) (.array items) [.item i]
  | wildcard (v : Json) (step : Step) : Takes .wildcard v [step]
  | descendant (name : String) (v : Json) (steps : List Step) :
    Takes (.descendant name) v (steps ++ [.key name])

/-- Whether a segment descends to any depth. -/
def descends : Segment → Bool
  | .descendant _ => true
  | _ => false

/-- Every segment that does not descend to any depth takes a single step. -/
theorem Takes.length_eq_one {s : Segment} {v : Json} {piece : List Step} (h : s.Takes v piece)
    (hs : s.descends = false) : piece.length = 1 := by
  cases h with
  | descendant => cases hs
  | _ => rfl

end Segment

/-! ### Names that spell positions -/

/-- A name spells a position if it is made of digits, with any zeros in front. -/
theorem position?_eq_some_iff {name : String} {i : ℕ} :
    position? name = some i ↔ SpellsPosition name i := by
  have hdigits (ds : List Char) :
      (if ds.isEmpty || !ds.all Char.isDigit then none else some (Decimal.ofDigits ds)) = some i ↔
        ds ≠ [] ∧ (∀ c ∈ ds, c.isDigit = true) ∧ Decimal.ofDigits ds = i := by
    by_cases hempty : ds = []
    · simp [hempty]
    · by_cases hall : ∀ c ∈ ds, c.isDigit = true <;> simp [hempty, hall]
  unfold position? SpellsPosition
  rw [hdigits]
  split
  · rename_i rest htext
    constructor
    · rintro ⟨hne, hall, hvalue⟩
      exact ⟨rest, hne, hall, hvalue, .inr htext⟩
    · rintro ⟨digits, hne, hall, hvalue, hplain | hsigned⟩
      · have hplus : '+' ∈ digits := by simp [← hplain, htext]
        exact absurd (hall '+' hplus) (by decide)
      · obtain rfl := (List.cons.inj (htext.symm.trans hsigned)).2
        exact ⟨hne, hall, hvalue⟩
  · rename_i hplus
    constructor
    · rintro ⟨hne, hall, hvalue⟩
      exact ⟨name.toList, hne, hall, hvalue, .inl rfl⟩
    · rintro ⟨digits, hne, hall, hvalue, hplain | hsigned⟩
      · rw [hplain]
        exact ⟨hne, hall, hvalue⟩
      · exact absurd hsigned (hplus digits)

/-! ### Slices -/

theorem bound_eq_heldWithin (length : ℕ) (i : ℤ) : bound length i = heldWithin length i := by
  unfold bound heldWithin fromEnd
  omega

/-- Every so many items are listed by their positions. -/
theorem lists_everyNth (k : ℕ) (items : List Json) :
    Lists (everyNth k items) fun i v ↦ k + 1 ∣ i ∧ items[i]? = some v := by
  induction items using everyNth.induct k with
  | case1 =>
    rw [everyNth]
    exact Lists.nil fun _ _ h ↦ by simp at h
  | case2 v rest ih =>
    have hfirst := Lists.ofOption 0 (some v)
    have hlater := ih.rename (add_left_injective (k + 1))
    rw [everyNth]
    refine (hfirst.append hlater ?_).congr fun i w ↦ ?_
    · rintro i a b ⟨rfl, -⟩ ⟨j, hj, -⟩
      exact Nat.succ_ne_zero (j + k) hj
    · constructor
      · rintro (⟨rfl, hw⟩ | ⟨j, rfl, hdvd, hw⟩)
        · exact ⟨Nat.dvd_zero _, by simpa using hw⟩
        · refine ⟨(Nat.dvd_add_self_right).mpr hdvd, ?_⟩
          rwa [← Nat.add_assoc, List.getElem?_cons_succ, Nat.add_comm, ← List.getElem?_drop]
      · rintro ⟨⟨times, rfl⟩, hw⟩
        cases times with
        | zero => exact .inl ⟨rfl, by simpa using hw⟩
        | succ times =>
          refine .inr ⟨(k + 1) * times, rfl, Nat.dvd_mul_right _ _, ?_⟩
          rwa [Nat.mul_succ, ← Nat.add_assoc, List.getElem?_cons_succ, Nat.add_comm,
            ← List.getElem?_drop] at hw

theorem heldWithin_nonneg (length : ℕ) (i : ℤ) : 0 ≤ heldWithin length i := le_max_left _ _

theorem sliceOf_eq (start stop step : Option ℤ) (items : List Json) :
    sliceOf start stop step items = everyNth ((max 1 (step.getD 1)).toNat - 1)
      ((items.take ((stop.map (heldWithin items.length)).getD items.length).toNat).drop
        ((start.map (heldWithin items.length)).getD 0).toNat) := by
  have hbound : bound items.length = heldWithin items.length :=
    funext (bound_eq_heldWithin items.length)
  rw [← hbound, max_comm]
  rfl

/-- A slice is listed by the positions between its bounds that are whole steps from the first. -/
theorem lists_sliceOf (start stop step : Option ℤ) (items : List Json) :
    Lists (sliceOf start stop step items) fun (i : ℕ) v ↦
      (∃ times : ℕ, (i : ℤ) = (start.map (heldWithin items.length)).getD 0
        + times * max 1 (step.getD 1)) ∧
      (i : ℤ) < (stop.map (heldWithin items.length)).getD items.length ∧ items[i]? = some v := by
  have hfirst : 0 ≤ (start.map (heldWithin items.length)).getD 0 := by
    cases start with
    | none => exact Int.le_refl 0
    | some i => exact heldWithin_nonneg _ i
  rw [sliceOf_eq]
  generalize (start.map (heldWithin items.length)).getD 0 = first at hfirst ⊢
  generalize (stop.map (heldWithin items.length)).getD items.length = last
  obtain ⟨first, rfl⟩ := Int.eq_ofNat_of_zero_le hfirst
  obtain ⟨n, hn⟩ : ∃ n : ℕ, max 1 (step.getD 1) = n + 1 :=
    ⟨(max 1 (step.getD 1)).toNat - 1, by omega⟩
  have hstep : (max 1 (step.getD 1)).toNat - 1 = n := by omega
  rw [hstep, hn]
  refine ((lists_everyNth n _).rename (add_left_injective first)).congr fun i v ↦ ?_
  simp only [List.getElem?_drop, List.getElem?_take, Int.toNat_natCast,
    Option.ite_none_right_eq_some]
  constructor
  · rintro ⟨j, rfl, ⟨times, rfl⟩, hlt, hv⟩
    refine ⟨⟨times, by push_cast; ring⟩, by omega, ?_⟩
    rwa [Nat.add_comm]
  · rintro ⟨⟨times, hi⟩, hlt, hv⟩
    have hi : i = first + (n + 1) * times := by
      zify
      rw [hi]
      ring
    subst hi
    exact ⟨(n + 1) * times, Nat.add_comm _ _, Nat.dvd_mul_right _ _, by omega, hv⟩

/-! ### Descendants -/

theorem descendantsOfItems_eq (name : String) (items : List Json) :
    descendantsOfItems name items = items.flatMap (descendants name) := by
  induction items with
  | nil => rfl
  | cons v rest ih => rw [descendantsOfItems, ih, List.flatMap_cons]

theorem descendantsOfMembers_eq (name : String) (members : List (String × Json)) :
    descendantsOfMembers name members = (members.map (·.2)).flatMap (descendants name) := by
  induction members with
  | nil => rfl
  | cons m rest ih => rw [descendantsOfMembers, ih, List.map_cons, List.flatMap_cons]

/-- The descendants of a value are its own member and those of the values right below it. -/
theorem descendants_eq (name : String) (v : Json) :
    descendants name v = (v.member? name).toList ++ v.children.flatMap (descendants name) := by
  cases v with
  | object members => rw [descendants, descendantsOfMembers_eq]; rfl
  | array items => rw [descendants, descendantsOfItems_eq]; rfl
  | _ => rfl

/-- What lies below a value is smaller, so descents come to an end. -/
theorem sizeOf_lt_of_below? {v w : Json} {step : Step} (h : v.below? step = some w) :
    sizeOf w < sizeOf v := by
  cases v with
  | object members =>
    cases step with
    | key name =>
      have hlt := List.sizeOf_lt_of_mem (Table.mem_of_get? h)
      simp only [Prod.mk.sizeOf_spec] at hlt
      simp only [object.sizeOf_spec]
      omega
    | item i => cases h
  | array items =>
    cases step with
    | key name => cases h
    | item i =>
      have hlt := List.sizeOf_lt_of_mem (List.mem_of_getElem? h)
      simp only [array.sizeOf_spec]
      omega
  | _ => cases step <;> cases h

theorem below?_key (v : Json) (name : String) : v.below? (.key name) = v.member? name := by
  cases v <;> rfl

/-- The descendants of a name are listed by the positions that end with it. -/
theorem lists_descendants (name : String) (v : Json) (h : v.Tabled) :
    Lists (descendants name v) fun position w ↦
      ∃ steps, position = steps ++ [.key name] ∧ v.at? position = some w := by
  have hown := Lists.ofOption [Step.key name] (v.member? name)
  have hbelow := ((lists_children h).flatMap fun _ u hu ↦
    have := sizeOf_lt_of_below? hu
    lists_descendants name u (h.below? hu)).rename (f := fun place ↦ place.1 :: place.2)
      fun _ _ heq ↦ Prod.ext (List.cons.inj heq).1 (List.cons.inj heq).2
  rw [descendants_eq]
  refine (hown.append hbelow ?_).congr fun position w ↦ ?_
  · rintro position a b ⟨rfl, -⟩ ⟨⟨step, rest⟩, heq, u, -, steps, rfl, -⟩
    simp at heq
  · constructor
    · rintro (⟨rfl, hw⟩ | ⟨⟨step, _⟩, rfl, u, hu, steps, rfl, hw⟩)
      · exact ⟨[], rfl, by rwa [at?_singleton, below?_key]⟩
      · exact ⟨step :: steps, rfl, at?_cons_eq_some.mpr ⟨u, hu, hw⟩⟩
    · rintro ⟨steps, rfl, hw⟩
      cases steps with
      | nil =>
        refine .inl ⟨rfl, ?_⟩
        rwa [List.nil_append, at?_singleton, below?_key] at hw
      | cons step steps =>
        obtain ⟨u, hu, hw⟩ := at?_cons_eq_some.mp hw
        exact .inr ⟨(step, steps ++ [.key name]), rfl, u, hu, steps, rfl, hw⟩
termination_by sizeOf v

/-! ### All segments -/

/-- A child lies one step away, at a member or at the item that its name spells. -/
theorem lists_child (name : String) (v : Json) :
    Lists (v.child? name).toList fun piece w ↦
      (Segment.child name).Takes v piece ∧ v.at? piece = some w := by
  cases v with
  | object members =>
    refine (Lists.ofOption [Step.key name] _).congr fun piece w ↦ ?_
    constructor
    · rintro ⟨rfl, hw⟩
      exact ⟨.member name members, by rwa [at?_singleton]⟩
    · rintro ⟨⟨⟩, hw⟩
      exact ⟨rfl, by rwa [at?_singleton] at hw⟩
  | array items =>
    rw [child?]
    cases hi : position? name with
    | none =>
      refine Lists.nil fun piece w h ↦ ?_
      cases h.1 with
      | spelled _ hspells =>
        rw [position?_eq_some_iff.mpr hspells] at hi
        cases hi
    | some i =>
      have hspells : SpellsPosition name i := position?_eq_some_iff.mp hi
      refine (Lists.ofOption [Step.item i] items[i]?).congr fun piece w ↦ ?_
      constructor
      · rintro ⟨rfl, hw⟩
        exact ⟨.spelled items hspells, by rwa [at?_singleton]⟩
      · rintro ⟨htakes, hw⟩
        cases htakes with
        | spelled _ hspells' =>
          obtain rfl := Option.some.inj ((position?_eq_some_iff.mpr hspells').symm.trans hi)
          exact ⟨rfl, by rwa [at?_singleton] at hw⟩
  | _ => exact Lists.nil fun _ _ h ↦ nomatch h.1

/-- An index counts from either end, and takes one item at most. -/
theorem lists_index (n : ℤ) (v : Json) :
    Lists ((Segment.index n).select v) fun piece w ↦
      (Segment.index n).Takes v piece ∧ v.at? piece = some w := by
  cases v with
  | array items =>
    have hselect : (Segment.index n).select (.array items)
        = if 0 ≤ fromEnd items.length n then (items[(fromEnd items.length n).toNat]?).toList
          else [] := rfl
    rw [hselect]
    split
    · rename_i hle
      obtain ⟨i, hi⟩ := Int.eq_ofNat_of_zero_le hle
      rw [hi, Int.toNat_natCast]
      refine (Lists.ofOption [Step.item i] items[i]?).congr fun piece w ↦ ?_
      constructor
      · rintro ⟨rfl, hw⟩
        exact ⟨.index hi.symm, by rwa [at?_singleton]⟩
      · rintro ⟨htakes, hw⟩
        cases htakes with
        | index hj =>
          obtain rfl := Int.ofNat.inj (hj.trans hi)
          exact ⟨rfl, by rwa [at?_singleton] at hw⟩
    · rename_i hlt
      refine Lists.nil fun piece w h ↦ ?_
      cases h.1 with
      | index hj => omega
  | _ => exact Lists.nil fun _ _ h ↦ nomatch h.1

/-- A slice takes items by their positions, each once. -/
theorem lists_slice (start stop step : Option ℤ) (v : Json) :
    Lists ((Segment.slice start stop step).select v) fun piece w ↦
      (Segment.slice start stop step).Takes v piece ∧ v.at? piece = some w := by
  cases v with
  | array items =>
    refine ((lists_sliceOf start stop step items).rename (f := fun i ↦ [Step.item i])
      fun _ _ heq ↦ Step.item.inj (List.cons.inj heq).1).congr fun piece w ↦ ?_
    constructor
    · rintro ⟨i, rfl, ⟨times, hi⟩, hlt, hw⟩
      exact ⟨.slice times hi hlt, by rwa [at?_singleton]⟩
    · rintro ⟨htakes, hw⟩
      cases htakes with
      | slice times hi hlt => exact ⟨_, rfl, ⟨times, hi⟩, hlt, by rwa [at?_singleton] at hw⟩
  | _ => exact Lists.nil fun _ _ h ↦ nomatch h.1

/-- What a segment selects is listed by the pieces that it takes. -/
theorem lists_select (s : Segment) {v : Json} (h : v.Tabled) :
    Lists (s.select v) fun piece w ↦ s.Takes v piece ∧ v.at? piece = some w := by
  cases s with
  | child name => exact lists_child name v
  | index n => exact lists_index n v
  | slice start stop step => exact lists_slice start stop step v
  | wildcard =>
    refine ((lists_children h).rename (f := fun step ↦ [step])
      fun _ _ heq ↦ (List.cons.inj heq).1).congr fun piece w ↦ ?_
    constructor
    · rintro ⟨step, rfl, hw⟩
      exact ⟨.wildcard v step, by rwa [at?_singleton]⟩
    · rintro ⟨⟨⟩, hw⟩
      exact ⟨_, rfl, by rwa [at?_singleton] at hw⟩
  | descendant name =>
    refine (lists_descendants name v h).congr fun piece w ↦ ?_
    constructor
    · rintro ⟨steps, rfl, hw⟩
      exact ⟨.descendant name v steps, hw⟩
    · rintro ⟨⟨⟩, hw⟩
      exact ⟨_, rfl, hw⟩

/-! ## Paths -/

/-- The segments, one after the other, take the pieces of a position from one value to another. -/
inductive Leads : List Segment → Json → List (List Step) → Json → Prop where
  | nil (v : Json) : Leads [] v [] v
  | cons {s : Segment} {v w u : Json} {piece : List Step} {segments : List Segment}
    {pieces : List (List Step)} (htakes : s.Takes v piece) (hw : v.at? piece = some w)
    (hrest : Leads segments w pieces u) : Leads (s :: segments) v (piece :: pieces) u

variable {segments : List Segment} {v w : Json} {pieces : List (List Step)}

/-- The pieces make up the position of the value. -/
theorem Leads.at?_flatten (h : Leads segments v pieces w) : v.at? pieces.flatten = some w := by
  induction h with
  | nil v => rfl
  | cons _ hw _ ih => rw [List.flatten_cons, at?_append, hw, Option.bind_some, ih]

/-- Where no segment descends to any depth, there are as many steps as segments. -/
theorem Leads.length_flatten (h : Leads segments v pieces w)
    (hsegments : ∀ s ∈ segments, s.descends = false) :
    pieces.flatten.length = segments.length := by
  induction h with
  | nil v => rfl
  | cons htakes _ _ ih =>
    rw [List.flatten_cons, List.length_append, htakes.length_eq_one (hsegments _ (by simp)),
      ih fun s hs ↦ hsegments s (by simp [hs]), List.length_cons, Nat.add_comm]

/-- With one descending segment at most, a position can be cut in one way only. -/
theorem Leads.pieces_eq {w' : Json} {pieces' : List (List Step)} (h : Leads segments v pieces w)
    (h' : Leads segments v pieces' w') (hsegments : segments.countP Segment.descends ≤ 1)
    (hflatten : pieces.flatten = pieces'.flatten) : pieces = pieces' := by
  induction h generalizing pieces' with
  | nil v =>
    cases h'
    rfl
  | @cons s v u w piece segments pieces htakes hu hrest ih =>
    obtain _ | @⟨_, _, u', _, piece', _, pieces', htakes', hu', hrest'⟩ := h'
    rw [List.flatten_cons, List.flatten_cons] at hflatten
    have hlength : piece.length = piece'.length := by
      cases hs : s.descends with
      | false => rw [htakes.length_eq_one hs, htakes'.length_eq_one hs]
      | true =>
        -- What the other segments take is as long as they are many.
        have hnone : ∀ t ∈ segments, t.descends = false := by
          rw [List.countP_cons_of_pos hs] at hsegments
          simpa using (List.countP_eq_zero (p := Segment.descends) (l := segments)).mp (by omega)
        have htotal := congrArg List.length hflatten
        rw [List.length_append, List.length_append, hrest.length_flatten hnone,
          hrest'.length_flatten hnone] at htotal
        omega
    obtain ⟨rfl, hpieces⟩ := List.append_inj hflatten hlength
    obtain rfl := Option.some.inj (hu.symm.trans hu')
    have hfewer : segments.countP Segment.descends ≤ 1 :=
      ((List.sublist_cons_self s segments).countP_le).trans hsegments
    rw [ih hrest' hfewer hpieces]

/-- Selection from several values is selection from each of them in turn. -/
theorem foldl_select_eq_flatMap (segments : List Segment) (values : List Json) :
    segments.foldl (fun values s ↦ values.flatMap s.select) values
      = values.flatMap fun v ↦ segments.foldl (fun values s ↦ values.flatMap s.select) [v] := by
  induction segments generalizing values with
  | nil => simp
  | cons s segments ih =>
    calc
      _ = (values.flatMap s.select).flatMap fun w ↦
          segments.foldl (fun values s ↦ values.flatMap s.select) [w] := ih _
      _ = values.flatMap fun v ↦ (s.select v).flatMap fun w ↦
          segments.foldl (fun values s ↦ values.flatMap s.select) [w] := List.flatMap_assoc
      _ = _ := by
        congr 1
        funext v
        rw [List.foldl_cons, List.flatMap_singleton, ← ih]

/-- What segments select is listed by the pieces that they take one after the other. -/
theorem lists_foldl_select (segments : List Segment) {v : Json} (h : v.Tabled) :
    Lists (segments.foldl (fun values s ↦ values.flatMap s.select) [v]) (Leads segments v) := by
  induction segments generalizing v with
  | nil =>
    refine (Lists.ofOption [] (some v)).congr fun pieces w ↦ ?_
    constructor
    · rintro ⟨rfl, ⟨⟩⟩
      exact .nil v
    · rintro ⟨⟩
      exact ⟨rfl, rfl⟩
  | cons s segments ih =>
    have hlists := ((lists_select s h).flatMap fun _ w hw ↦ ih (h.at? hw.2)).rename
      (f := fun place ↦ place.1 :: place.2)
      fun _ _ heq ↦ Prod.ext (List.cons.inj heq).1 (List.cons.inj heq).2
    rw [List.foldl_cons, List.flatMap_singleton, foldl_select_eq_flatMap]
    refine hlists.congr fun pieces u ↦ ?_
    constructor
    · rintro ⟨⟨piece, pieces⟩, rfl, w, ⟨htakes, hw⟩, hrest⟩
      exact .cons htakes hw hrest
    · intro hleads
      cases hleads with
      | cons htakes hw hrest => exact ⟨(_, _), rfl, _, ⟨htakes, hw⟩, hrest⟩

theorem selectOne_eq_ok_iff (path : Path) (root v : Json) :
    path.selectOne root = .ok v ↔ path.select root = [v] := by
  unfold selectOne
  split <;> simp_all

/-- A path selects the values at the positions that its segments can cut into their pieces, one for
each way of cutting. A path with one descending segment at most selects no position twice, and a
path selects a single value exactly if there is a single way of cutting. -/
theorem select_lists_cuts (path : Path) {root : Json} (h : root.Tabled) :
    Lists (path.select root) (Leads path.segments root) ∧
    (∀ pieces v, Leads path.segments root pieces v → root.at? pieces.flatten = some v) ∧
    (path.segments.countP Segment.descends ≤ 1 →
      Lists (path.select root) fun position v ↦
        ∃ pieces, pieces.flatten = position ∧ Leads path.segments root pieces v) ∧
    (∀ v, path.selectOne root = .ok v ↔ ∃ pieces, Leads path.segments root pieces v ∧
      ∀ pieces' v', Leads path.segments root pieces' v' → pieces' = pieces) := by
  have hlists : Lists (path.select root) (Leads path.segments root) :=
    lists_foldl_select path.segments h
  refine ⟨hlists, fun _ _ hleads ↦ hleads.at?_flatten, fun hsegments ↦ ?_, fun v ↦ ?_⟩
  · exact hlists.rename_of_injOn List.flatten fun _ _ _ _ hleads hleads' heq ↦
      hleads.pieces_eq hleads' hsegments heq
  · rw [selectOne_eq_ok_iff, hlists.eq_singleton_iff]

/-- An object with one name at three depths. -/
def nestedNames : Json :=
  .object [("a", .object [("a", .object [("a", .bool true)])])]

/-- Of three members with one name the deepest is found at one place only. -/
theorem select_lists_cuts_nestedNames :
    let path : Path := { source := "$..a", segments := [.descendant "a"] }
    nestedNames.Tabled ∧ path.segments.countP Segment.descends ≤ 1 ∧
      Leads path.segments nestedNames [[.key "a", .key "a", .key "a"]] (.bool true) ∧
      nestedNames.at? [.key "a", .key "a", .key "a"] = some (.bool true) ∧
      Lists (path.select nestedNames) fun position v ↦
        ∃ pieces, pieces.flatten = position ∧ Leads path.segments nestedNames pieces v := by
  intro path
  have htabled : nestedNames.Tabled := by decide
  have hsegments : path.segments.countP Segment.descends ≤ 1 := by decide
  have hleads : Leads path.segments nestedNames [[.key "a", .key "a", .key "a"]] (.bool true) :=
    .cons (.descendant "a" nestedNames [.key "a", .key "a"]) rfl (.nil _)
  obtain ⟨-, hat, honce, -⟩ := select_lists_cuts path htabled
  exact ⟨htabled, hsegments, hleads, hat _ _ hleads, honce hsegments⟩

example :
    (select { source := "$..a..a", segments := [.descendant "a", .descendant "a"] }
      nestedNames).length = 3 := by decide

end Path

end MapStyle
