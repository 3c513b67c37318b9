import Mathlib.Data.List.Nodup
import MapStyle.Recent

/-!
# Entries of a memory

Looking up and storing bring no entry into a memory but the one that is stored. As long as there is
room, storing an entry forgets no other one. In general a memory holds the latest uses of different
keys, as many as are kept, where to store an entry and to find one are uses.
-/

namespace MapStyle.Recent

variable {α : Type} {r : Recent α} {key : String} {value : α} {entry : String × α}

theorem mem_of_find? (h : r.find? key = some value) : (key, value) ∈ r.entries := by
  obtain ⟨before, after, hentries, -⟩ := List.lookup_eq_some_iff.mp h
  rw [hentries]
  exact List.mem_append_right before List.mem_cons_self

theorem mem_of_mem_others (h : entry ∈ r.others key) : entry ∈ r.entries :=
  (List.mem_filter.mp h).1

theorem mem_put (h : entry ∈ (r.put key value).entries) :
    entry = (key, value) ∨ entry ∈ r.entries := by
  rcases List.mem_cons.mp (List.mem_of_mem_take h) with heq | hmem
  · exact .inl heq
  · exact .inr (mem_of_mem_others hmem)

/-- What is found is an entry, and every entry stays one that was there before. -/
theorem mem_get (h : entry ∈ (r.get key).2.entries) : entry ∈ r.entries := by
  unfold get at h
  split at h
  · exact h
  · rename_i value hfound
    rcases List.mem_cons.mp h with rfl | hmem
    · exact mem_of_find? hfound
    · exact mem_of_mem_others hmem

theorem mem_of_get (h : (r.get key).1 = some value) : (key, value) ∈ r.entries := by
  unfold get at h
  split at h
  · contradiction
  · rename_i found hfound
    cases h
    exact mem_of_find? hfound

/-! ## What is found afterwards -/

theorem find?_put_self : (r.put key value).find? key = some value := by
  have hwindow : 0 < r.window := Nat.lt_of_lt_of_le Nat.one_pos (Nat.le_max_right _ _)
  obtain ⟨n, hn⟩ := Nat.exists_eq_succ_of_ne_zero (Nat.pos_iff_ne_zero.mp hwindow)
  simp [find?, put, hn]

theorem lookup_filter_ne {other : String} (h : other ≠ key) (entries : List (String × α)) :
    (entries.filter fun e ↦ e.1 != key).lookup other = entries.lookup other := by
  induction entries with
  | nil => rfl
  | cons e rest ih =>
    obtain ⟨k, v⟩ := e
    by_cases hk : k = key
    · subst hk
      rw [List.filter_cons_of_neg (by simp), ih, List.lookup_cons, beq_false_of_ne h]
    · rw [List.filter_cons_of_pos (by simpa using hk), List.lookup_cons, List.lookup_cons, ih]

theorem lookup_others {other : String} (h : other ≠ key) :
    (r.others key).lookup other = r.entries.lookup other :=
  lookup_filter_ne h r.entries

/-- With room for one more entry, storing one leaves the others in their place. -/
theorem find?_put_of_ne {other : String} (h : other ≠ key)
    (hroom : (r.others key).length < r.window) : (r.put key value).find? other = r.find? other := by
  have hall : ((key, value) :: r.others key).length ≤ r.window := hroom
  calc
    (r.put key value).find? other = ((key, value) :: r.others key).lookup other := by
      rw [find?, put, List.take_of_length_le hall]
    _ = (r.others key).lookup other := by rw [List.lookup_cons, beq_false_of_ne h]
    _ = r.find? other := lookup_others h

/-- A use changes the order of the entries, not what is found. -/
theorem find?_get (other : String) : (r.get key).2.find? other = r.find? other := by
  unfold get
  cases hfound : r.find? key with
  | none => rfl
  | some value =>
    by_cases h : other = key
    · rw [h, hfound]
      simp [find?]
    · rw [find?, List.lookup_cons, beq_false_of_ne h]
      exact lookup_others h

/-! ## Distinct keys -/

theorem not_mem_keys_others : key ∉ (r.others key).map (·.1) := by
  simp [others]

theorem nodup_keys_others (h : r.keys.Nodup) : ((r.others key).map (·.1)).Nodup :=
  h.sublist (List.filter_sublist.map _)

theorem nodup_keys_cons_others (h : r.keys.Nodup) (key : String) (value : α) :
    (((key, value) :: r.others key).map (·.1)).Nodup :=
  List.nodup_cons.mpr ⟨not_mem_keys_others, nodup_keys_others h⟩

theorem nodup_keys_put (h : r.keys.Nodup) : (r.put key value).keys.Nodup :=
  (nodup_keys_cons_others h key value).sublist ((List.take_sublist _ _).map _)

theorem nodup_keys_get (h : r.keys.Nodup) : (r.get key).2.keys.Nodup := by
  unfold get
  split
  · exact h
  · exact nodup_keys_cons_others h _ _

@[simp] theorem window_put : (r.put key value).window = r.window := rfl

@[simp] theorem window_get : (r.get key).2.window = r.window := by
  unfold get
  split <;> rfl

/-! ## The latest uses -/

/-- Of uses, given the latest first, the latest use of each key. -/
def latest : List (String × α) → List (String × α)
  | [] => []
  | use :: past => use :: (latest past).filter fun e ↦ e.1 != use.1

/-- The memory that holds the latest uses of different keys, as many as are kept. -/
def ofUses (capacity : Nat) (past : List (String × α)) : Recent α :=
  { capacity, entries := (latest past).take (max capacity 1) }

variable {past : List (String × α)} {capacity : Nat}

theorem nodup_keys_latest (past : List (String × α)) : ((latest past).map (·.1)).Nodup := by
  induction past with
  | nil => exact List.nodup_nil
  | cons use past ih =>
    rw [latest, List.map_cons, List.nodup_cons]
    exact ⟨by simp, ih.sublist (List.filter_sublist.map _)⟩

/-- A key has the value of its latest use. -/
theorem lookup_latest (past : List (String × α)) (key : String) :
    (latest past).lookup key = past.lookup key := by
  induction past with
  | nil => rfl
  | cons use past ih =>
    rw [latest, List.lookup_cons, List.lookup_cons]
    by_cases h : key = use.1
    · rw [beq_iff_eq.mpr h]
    · rw [beq_false_of_ne h, lookup_filter_ne h, ih]

/-- When a key is taken out of a window, at least a window smaller by one is left as it should
be. -/
theorem take_filter_take {entries : List (String × α)} (h : (entries.map (·.1)).Nodup)
    (key : String) (n : Nat) :
    ((entries.take (n + 1)).filter fun e ↦ e.1 != key).take n
      = (entries.filter fun e ↦ e.1 != key).take n := by
  induction entries generalizing n with
  | nil => rfl
  | cons e rest ih =>
    obtain ⟨hkey, hrest⟩ := List.nodup_cons.mp h
    rw [List.take_succ_cons]
    by_cases he : e.1 = key
    · have hothers : ∀ d ∈ rest, (d.1 != key) = true := fun d hd ↦
        bne_iff_ne.mpr fun hd' ↦ hkey (List.mem_map.mpr ⟨d, hd, hd'.trans he.symm⟩)
      rw [List.filter_cons_of_neg (by simp [he]), List.filter_cons_of_neg (by simp [he]),
        List.filter_eq_self.mpr hothers,
        List.filter_eq_self.mpr fun d hd ↦ hothers d (List.mem_of_mem_take hd), List.take_take,
        Nat.min_self]
    · rw [List.filter_cons_of_pos (by simpa using he), List.filter_cons_of_pos (by simpa using he)]
      cases n with
      | zero => rfl
      | succ n => rw [List.take_succ_cons, List.take_succ_cons, ih hrest]

/-- A use comes first, and the others follow as far as there is room. -/
theorem take_cons_others (capacity : Nat) (past : List (String × α)) (use : String × α) :
    (use :: (ofUses capacity past).others use.1).take (max capacity 1)
      = (ofUses capacity (use :: past)).entries := by
  obtain ⟨n, hn⟩ : ∃ n, max capacity 1 = n + 1 := ⟨max capacity 1 - 1, by omega⟩
  simp only [ofUses, others, latest, hn]
  rw [List.take_succ_cons, List.take_succ_cons, take_filter_take (nodup_keys_latest past)]

/-- A memory without uses is empty. -/
@[simp] theorem ofUses_nil (capacity : Nat) : ofUses capacity [] = ({ capacity } : Recent α) := by
  simp [ofUses, latest]

@[simp] theorem clear_ofUses : (ofUses capacity past).clear = { capacity } := rfl

/-- To store an entry is a use. -/
theorem put_ofUses (capacity : Nat) (past : List (String × α)) (key : String) (value : α) :
    (ofUses capacity past).put key value = ofUses capacity ((key, value) :: past) :=
  congrArg (Recent.mk capacity) (take_cons_others capacity past (key, value))

/-- To find an entry is a use. -/
theorem get_ofUses_of_some (h : (ofUses capacity past).find? key = some value) :
    (ofUses capacity past).get key = (some value, ofUses capacity ((key, value) :: past)) := by
  have hroom : ((key, value) :: (ofUses capacity past).others key).length ≤ max capacity 1 :=
    calc ((ofUses capacity past).others key).length + 1
      _ ≤ (ofUses capacity past).entries.length :=
        List.length_filter_lt_length_iff_exists.mpr ⟨_, mem_of_find? h, by simp⟩
      _ ≤ max capacity 1 := List.length_take_le ..
  have hentries : (key, value) :: (ofUses capacity past).others key
      = (ofUses capacity ((key, value) :: past)).entries := by
    rw [← take_cons_others, List.take_of_length_le hroom]
  rw [get, h]
  exact congrArg (fun entries ↦ (some value, Recent.mk capacity entries)) hentries

/-- To find nothing is no use. -/
theorem get_of_none (h : r.find? key = none) : r.get key = (none, r) := by rw [get, h]

/-- What is held under a key is the value of its latest use. -/
theorem find?_ofUses (capacity : Nat) (past : List (String × α)) (key : String) :
    (ofUses capacity past).find? key
      = if key ∈ (ofUses capacity past).keys then past.lookup key else none := by
  have hwhole : past.lookup key = ((ofUses capacity past).find? key).or
      (((latest past).drop (max capacity 1)).lookup key) := by
    rw [← lookup_latest, find?, ofUses, ← List.lookup_append, List.take_append_drop]
  split
  · rename_i hmem
    obtain ⟨e, he, hkey⟩ := List.mem_map.mp hmem
    have hsome : ((ofUses capacity past).find? key).isSome :=
      List.lookup_isSome_iff.mpr ⟨e, he, beq_iff_eq.mpr hkey.symm⟩
    rw [hwhole, Option.or_of_isSome hsome]
  · rename_i hmem
    refine List.lookup_eq_none_iff.mpr fun e he ↦ bne_iff_ne.mpr fun hkey ↦ ?_
    exact hmem (List.mem_map.mpr ⟨e, he, hkey.symm⟩)

theorem mem_of_find?_ofUses (h : (ofUses capacity past).find? key = some value) :
    (key, value) ∈ past := by
  rw [find?_ofUses, Option.ite_none_right_eq_some] at h
  obtain ⟨before, after, hpast, -⟩ := List.lookup_eq_some_iff.mp h.2
  rw [hpast]
  exact List.mem_append_right before List.mem_cons_self

end MapStyle.Recent
