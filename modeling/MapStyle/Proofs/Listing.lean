import Mathlib.Data.List.Nodup
import Mathlib.Logic.Function.Basic
import MapStyle.Proofs.Table

/-!
# Listings

A list of values is told by where its values are found: it lists a relation between places and
values if its elements are the values of all places, one element for each place. The same value may
then occur several times, once for every place that has it. How lists are put together tells how
their places are.
-/

namespace MapStyle

variable {α β κ κ' : Type} {P Q : κ → α → Prop} {values others : List α}

/-- The list has one element for each place with a value, and it is that value. -/
def Lists (values : List α) (P : κ → α → Prop) : Prop :=
  ∃ located : List (κ × α), located.map (·.2) = values ∧ (located.map (·.1)).Nodup ∧
    ∀ place value, (place, value) ∈ located ↔ P place value

namespace Lists

theorem congr (h : Lists values P) (hPQ : ∀ place value, P place value ↔ Q place value) :
    Lists values Q := by
  obtain ⟨located, hvalues, hnodup, hmem⟩ := h
  exact ⟨located, hvalues, hnodup, fun place value ↦ (hmem place value).trans (hPQ place value)⟩

theorem mem_iff (h : Lists values P) {value : α} : value ∈ values ↔ ∃ place, P place value := by
  obtain ⟨located, rfl, -, hmem⟩ := h
  simp [hmem]

theorem nil (h : ∀ place value, ¬ P place value) : Lists [] P :=
  ⟨[], rfl, List.nodup_nil, fun place value ↦ by simp [h]⟩

/-- A value at one place, if there is one. -/
theorem ofOption (place : κ) (value? : Option α) :
    Lists value?.toList fun k a ↦ k = place ∧ value? = some a := by
  cases value? with
  | none => exact nil fun _ _ h ↦ nomatch h.2
  | some value =>
    refine ⟨[(place, value)], rfl, List.nodup_singleton _, fun k a ↦ ?_⟩
    simp [eq_comm (a := a)]

/-- Two lists without a common place are appended. -/
theorem append (h : Lists values P) (h' : Lists others Q)
    (happart : ∀ place a b, P place a → ¬ Q place b) :
    Lists (values ++ others) fun place value ↦ P place value ∨ Q place value := by
  obtain ⟨first, rfl, hfirst, hmemFirst⟩ := h
  obtain ⟨second, rfl, hsecond, hmemSecond⟩ := h'
  refine ⟨first ++ second, List.map_append, ?_, fun place value ↦ ?_⟩
  · rw [List.map_append, List.nodup_append]
    refine ⟨hfirst, hsecond, ?_⟩
    rintro place hplace _ hplace' rfl
    obtain ⟨⟨_, a⟩, ha, rfl⟩ := List.mem_map.mp hplace
    obtain ⟨⟨_, b⟩, hb, rfl⟩ := List.mem_map.mp hplace'
    exact happart _ a b ((hmemFirst _ _).mp ha) ((hmemSecond _ _).mp hb)
  · rw [List.mem_append, hmemFirst, hmemSecond]

/-- The places may be named anew, as long as places with a value get different names. -/
theorem rename_of_injOn (h : Lists values P) (f : κ → κ')
    (hf : ∀ k k' a a', P k a → P k' a' → f k = f k' → k = k') :
    Lists values fun place value ↦ ∃ k, f k = place ∧ P k value := by
  obtain ⟨located, rfl, hnodup, hmem⟩ := h
  refine ⟨located.map fun entry ↦ (f entry.1, entry.2), by simp [Function.comp_def], ?_,
    fun place value ↦ ?_⟩
  · have hkeys : (located.map fun entry ↦ (f entry.1, entry.2)).map (·.1)
        = (located.map (·.1)).map f := by simp [Function.comp_def]
    rw [hkeys]
    refine List.Nodup.map_on ?_ hnodup
    intro k hk k' hk' heq
    obtain ⟨⟨_, a⟩, ha, rfl⟩ := List.mem_map.mp hk
    obtain ⟨⟨_, a'⟩, ha', rfl⟩ := List.mem_map.mp hk'
    exact hf _ _ a a' ((hmem _ _).mp ha) ((hmem _ _).mp ha') heq
  · constructor
    · intro hentry
      obtain ⟨⟨k, a⟩, hk, heq⟩ := List.mem_map.mp hentry
      cases heq
      exact ⟨k, rfl, (hmem k a).mp hk⟩
    · rintro ⟨k, rfl, hk⟩
      exact List.mem_map.mpr ⟨(k, value), (hmem k value).mpr hk, rfl⟩

theorem rename (h : Lists values P) {f : κ → κ'} (hf : Function.Injective f) :
    Lists values fun place value ↦ ∃ k, f k = place ∧ P k value :=
  h.rename_of_injOn f fun _ _ _ _ _ _ heq ↦ hf heq

/-- What is listed from each value of a list has the place of the value and then its own. -/
theorem flatMap {f : α → List β} {R : α → κ' → β → Prop} (h : Lists values P)
    (hf : ∀ place value, P place value → Lists (f value) (R value)) :
    Lists (values.flatMap f) fun (place : κ × κ') b ↦
      ∃ value, P place.1 value ∧ R value place.2 b := by
  obtain ⟨located, rfl, hnodup, hmem⟩ := h
  have hlisted : ∀ entry ∈ located, Lists (f entry.2) (R entry.2) :=
    fun entry hentry ↦ hf entry.1 entry.2 ((hmem entry.1 entry.2).mp hentry)
  simp only [← hmem]
  clear hmem hf
  induction located with
  | nil => exact nil fun _ _ ⟨_, hvalue, _⟩ ↦ List.not_mem_nil hvalue
  | cons entry rest ih =>
    obtain ⟨k, a⟩ := entry
    obtain ⟨hk, hrest⟩ := List.nodup_cons.mp hnodup
    have hhead := (hlisted (k, a) List.mem_cons_self).rename (Prod.mk_right_injective k)
    have htail := ih hrest fun entry hentry ↦ hlisted entry (List.mem_cons_of_mem _ hentry)
    refine (hhead.append htail ?_).congr ?_
    · rintro place b b' ⟨k', rfl, -⟩ ⟨a', ha', -⟩
      exact hk (List.mem_map.mpr ⟨_, ha', rfl⟩)
    · rintro ⟨place, place'⟩ b
      constructor
      · rintro (⟨k', heq, hb⟩ | ⟨a', ha', hb⟩)
        · cases heq
          exact ⟨a, List.mem_cons_self, hb⟩
        · exact ⟨a', List.mem_cons_of_mem _ ha', hb⟩
      · rintro ⟨a', ha', hb⟩
        rcases List.mem_cons.mp ha' with heq | ha'
        · cases heq
          exact .inl ⟨place', rfl, hb⟩
        · exact .inr ⟨a', ha', hb⟩

/-- A list holds one value exactly if one place has a value. -/
theorem eq_singleton_iff (h : Lists values P) {value : α} :
    values = [value] ↔
      ∃ place, P place value ∧ ∀ place' value', P place' value' → place' = place := by
  obtain ⟨located, rfl, hnodup, hmem⟩ := h
  constructor
  · intro heq
    obtain ⟨⟨k, a⟩, rfl, rfl⟩ := List.map_eq_singleton_iff.mp heq
    refine ⟨k, (hmem k a).mp (List.mem_singleton_self _), fun k' a' hk' ↦ ?_⟩
    exact congrArg Prod.fst (List.mem_singleton.mp ((hmem k' a').mpr hk'))
  · rintro ⟨k, hk, hunique⟩
    have hkeys : ∀ k' ∈ located.map (·.1), k' = k := by
      intro k' hk'
      obtain ⟨⟨_, a'⟩, ha', rfl⟩ := List.mem_map.mp hk'
      exact hunique _ a' ((hmem _ _).mp ha')
    have hentry : (k, value) ∈ located := (hmem k value).mpr hk
    match located, hnodup, hkeys, hentry with
    | [entry], _, _, hentry => rw [← List.mem_singleton.mp hentry, List.map_singleton]
    | entry :: entry' :: rest, hnodup, hkeys, _ =>
      have hsame : entry.1 = entry'.1 := by rw [hkeys entry.1 (by simp), hkeys entry'.1 (by simp)]
      exact absurd (by simp [hsame]) (List.nodup_cons.mp hnodup).1

/-! ## Items and members -/

/-- The items of a list are found at their positions. -/
theorem items (l : List α) : Lists l fun (i : ℕ) a ↦ l[i]? = some a := by
  induction l with
  | nil => exact nil fun _ _ h ↦ by simp at h
  | cons head rest ih =>
    refine ((ofOption 0 (some head)).append (ih.rename Nat.succ_injective) ?_).congr ?_
    · rintro i a b ⟨rfl, -⟩ ⟨j, hj, -⟩
      exact Nat.succ_ne_zero j hj
    · intro i a
      cases i with
      | zero => simp
      | succ i => simp

/-- The values of a table are found under their keys. -/
theorem members {t : Table α} (ht : Table.Ordered t) :
    Lists (t.map (·.2)) fun key a ↦ Table.get? t key = some a :=
  ⟨t, rfl, ht.nodup, fun _ _ ↦ ⟨Table.get?_of_mem ht.nodup, Table.mem_of_get?⟩⟩

end Lists

end MapStyle
