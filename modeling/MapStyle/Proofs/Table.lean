import Mathlib.Data.List.Nodup
import Mathlib.Data.String.Basic
import MapStyle.Table

/-!
# Laws of tables

Entries whose keys differ from each other are found in their table as they are found among
themselves, in whatever order they come. Entries that are in the order of their keys are their own
table. Two tables are equal if the same is found in them, so laying tables over each other is
associative.
-/

namespace MapStyle.Table

variable {α β : Type} {t u : Table α} {entries : List (String × α)} {key : String}

theorem get?_eq_none (h : key ∉ t.map (·.1)) : Table.get? t key = none := by
  induction t with
  | nil => rfl
  | cons e rest ih =>
    rw [List.map_cons, List.mem_cons, not_or] at h
    rw [Table.get?, if_neg (Ne.symm h.1), ih h.2]

theorem mem_of_get? {value : α} (h : Table.get? t key = some value) : (key, value) ∈ t := by
  induction t with
  | nil => cases h
  | cons e rest ih =>
    obtain ⟨k, v⟩ := e
    rw [Table.get?] at h
    split at h
    · cases h
      rename_i hkey
      exact hkey ▸ List.mem_cons_self
    · exact List.mem_cons_of_mem _ (ih h)

/-- Where no key comes twice, every entry is found. -/
theorem get?_of_mem {value : α} (h : (t.map (·.1)).Nodup) (hmem : (key, value) ∈ t) :
    Table.get? t key = some value := by
  induction t with
  | nil => cases hmem
  | cons e rest ih =>
    obtain ⟨hkey, hrest⟩ := List.nodup_cons.mp h
    rcases List.mem_cons.mp hmem with rfl | hmem
    · rw [Table.get?, if_pos rfl]
    · have hne : e.1 ≠ key := by
        rintro rfl
        exact hkey (List.mem_map.mpr ⟨_, hmem, rfl⟩)
      rw [Table.get?, if_neg hne, ih hrest hmem]

theorem get?_mapValues (f : α → β) (t : Table α) (key : String) :
    get? (mapValues f t) key = (get? t key).map f := by
  induction t with
  | nil => rfl
  | cons e rest ih =>
    rw [mapValues] at ih ⊢
    rw [List.map_cons, get?, get?, ih]
    split <;> rfl

theorem Ordered.nodup (h : Table.Ordered t) : (t.map (·.1)).Nodup :=
  List.pairwise_map.mpr (h.imp fun hlt ↦ String.ne_of_lt hlt)

theorem Ordered.mapValues (h : Table.Ordered t) (f : α → β) : Table.Ordered (mapValues f t) :=
  List.pairwise_map.mpr h

/-- A key above all others goes to the end. -/
theorem insert_of_forall_lt (h : ∀ e ∈ t, e.1 < key) (value : α) :
    t.insert key value = t ++ [(key, value)] := by
  induction t with
  | nil => rfl
  | cons e rest ih =>
    obtain ⟨k, v⟩ := e
    have hlt : k < key := h _ List.mem_cons_self
    rw [insert, if_neg (String.lt_asymm hlt), if_neg (String.ne_of_lt hlt).symm,
      ih fun e he ↦ h e (List.mem_cons_of_mem _ he), List.cons_append]

/-- Entries in the order of their keys are their own table. -/
theorem ofEntries_of_ordered (h : Table.Ordered entries) : ofEntries entries = entries := by
  have hfrom (t : Table α) (entries : List (String × α)) (hall : Table.Ordered (t ++ entries)) :
      entries.foldl (fun t e ↦ t.insert e.1 e.2) t = t ++ entries := by
    induction entries generalizing t with
    | nil => simp
    | cons e rest ih =>
      have hbelow : ∀ d ∈ t, d.1 < e.1 := fun d hd ↦
        (List.pairwise_append.mp hall).2.2 d hd e List.mem_cons_self
      have happend : t ++ e :: rest = (t ++ [e]) ++ rest := by simp
      rw [List.foldl_cons, insert_of_forall_lt hbelow, ih _ (happend ▸ hall), happend]
  exact hfrom [] entries h

/-- Entries with different keys that are stored one after the other are found before what was
there. -/
theorem get?_foldl_insert (h : (entries.map (·.1)).Nodup) (t : Table α) (key : String) :
    get? (entries.foldl (fun t e ↦ t.insert e.1 e.2) t) key
      = (get? entries key).or (get? t key) := by
  induction entries generalizing t with
  | nil => rfl
  | cons e rest ih =>
    obtain ⟨k, v⟩ := e
    obtain ⟨hk, hrest⟩ := List.nodup_cons.mp h
    rw [List.foldl_cons, ih hrest, get?]
    by_cases hkey : k = key
    · subst hkey
      rw [get?_eq_none hk, get?_insert_self, if_pos rfl]
      rfl
    · rw [get?_insert_of_ne _ _ (Ne.symm hkey), if_neg hkey]

/-- Entries with different keys are found in their table as they are found among themselves. -/
theorem get?_ofEntries (h : (entries.map (·.1)).Nodup) (key : String) :
    get? (ofEntries entries) key = get? entries key := by
  rw [ofEntries, get?_foldl_insert h [], get?_nil, Option.or_none]

/-- An insertion brings in its own entry and no other. -/
theorem mem_insert {value : α} {e : String × α} (h : e ∈ t.insert key value) :
    e = (key, value) ∨ e ∈ t := by
  induction t with
  | nil => exact .inl (List.mem_singleton.mp h)
  | cons d rest ih =>
    obtain ⟨k, v⟩ := d
    rw [insert] at h
    split at h
    · exact List.mem_cons.mp h
    · split at h
      · exact (List.mem_cons.mp h).imp_right (List.mem_cons_of_mem _)
      · rcases List.mem_cons.mp h with rfl | h
        · exact .inr List.mem_cons_self
        · exact (ih h).imp_right (List.mem_cons_of_mem _)

/-- A value that is stored keeps the keys in order. -/
theorem Ordered.insert (h : Table.Ordered t) (key : String) (value : α) :
    Table.Ordered (t.insert key value) := by
  induction t with
  | nil => exact List.pairwise_singleton _ _
  | cons e rest ih =>
    obtain ⟨k, v⟩ := e
    obtain ⟨hk, hrest⟩ := List.pairwise_cons.mp h
    rw [Table.insert]
    split
    · rename_i hlt
      refine List.pairwise_cons.mpr ⟨fun d hd ↦ ?_, h⟩
      rcases List.mem_cons.mp hd with rfl | hd
      · exact hlt
      · exact String.lt_trans hlt (hk d hd)
    · split
      · rename_i hkey
        exact List.pairwise_cons.mpr ⟨hkey ▸ hk, hrest⟩
      · rename_i hlt hkey
        refine List.pairwise_cons.mpr ⟨fun d hd ↦ ?_, ih hrest⟩
        rcases mem_insert hd with rfl | hd
        · exact (lt_trichotomy k key).resolve_right (not_or.mpr ⟨Ne.symm hkey, hlt⟩)
        · exact hk d hd

theorem ordered_ofEntries (entries : List (String × α)) : Table.Ordered (ofEntries entries) := by
  have hfrom (t : Table α) (ht : Table.Ordered t) :
      Table.Ordered (entries.foldl (fun t e ↦ t.insert e.1 e.2) t) := by
    induction entries generalizing t with
    | nil => exact ht
    | cons e rest ih => exact ih _ (ht.insert e.1 e.2)
  exact hfrom [] List.Pairwise.nil

theorem mem_of_mem_ofEntries {e : String × α} (h : e ∈ ofEntries entries) : e ∈ entries := by
  have hfrom (t : Table α) (he : e ∈ entries.foldl (fun t e ↦ t.insert e.1 e.2) t) :
      e ∈ t ∨ e ∈ entries := by
    clear h
    induction entries generalizing t with
    | nil => exact .inl he
    | cons d rest ih =>
      rcases ih _ he with hfirst | hrest
      · rcases mem_insert hfirst with rfl | ht
        · exact .inr List.mem_cons_self
        · exact .inl ht
      · exact .inr (List.mem_cons_of_mem _ hrest)
  exact (hfrom [] h).resolve_left nofun

/-! ## Equal tables -/

theorem Ordered.mem_iff (h : Ordered t) {value : α} :
    (key, value) ∈ t ↔ get? t key = some value :=
  ⟨get?_of_mem h.nodup, mem_of_get?⟩

/-- A table is told by what is found in it. -/
theorem Ordered.eq_of_get? (ht : Ordered t) (hu : Ordered u)
    (h : ∀ key, get? t key = get? u key) : t = u := by
  have hperm : t.Perm u := by
    refine (List.perm_ext_iff_of_nodup (List.Nodup.of_map _ ht.nodup)
      (List.Nodup.of_map _ hu.nodup)).mpr ?_
    rintro ⟨key, value⟩
    rw [ht.mem_iff, hu.mem_iff, h]
  refine hperm.eq_of_pairwise (fun d e _ _ hde hed ↦ ?_) ht hu
  exact absurd hed (String.lt_asymm hde)

/-! ## Tables laid over each other -/

/-- A table with the entries of another one stored over its own. -/
def overlay (base top : Table α) : Table α := top.foldl (fun t e ↦ t.insert e.1 e.2) base

theorem get?_overlay (h : Ordered u) (t : Table α) (key : String) :
    get? (overlay t u) key = (get? u key).or (get? t key) :=
  get?_foldl_insert h.nodup t key

theorem Ordered.overlay (h : Ordered t) (u : Table α) : Ordered (overlay t u) :=
  List.foldlRecOn u _ h fun _ ht e _ ↦ ht.insert e.1 e.2

theorem overlay_nil (h : Ordered t) : overlay [] t = t := ofEntries_of_ordered h

theorem overlay_assoc {s : Table α} (hs : Ordered s) (ht : Ordered t) (hu : Ordered u) :
    overlay (overlay s t) u = overlay s (overlay t u) := by
  refine ((hs.overlay t).overlay u).eq_of_get? (hs.overlay _) fun key ↦ ?_
  rw [get?_overlay hu, get?_overlay ht, get?_overlay (ht.overlay u), get?_overlay hu,
    Option.or_assoc]

theorem insert_insert_self (t : Table α) (key : String) (v w : α) :
    (t.insert key v).insert key w = t.insert key w := by
  induction t with
  | nil => simp [insert]
  | cons e rest ih => grind [insert]

theorem insert_comm {k l : String} (h : k ≠ l) (t : Table α) (v w : α) :
    (t.insert k v).insert l w = (t.insert l w).insert k v := by
  induction t with
  | nil => grind [insert]
  | cons e rest ih => grind [insert]

/-- An entry under a new key may be stored first or last. -/
theorem overlay_insert (h : key ∉ u.map (·.1)) (t : Table α) (value : α) :
    overlay (t.insert key value) u = (overlay t u).insert key value := by
  induction u generalizing t with
  | nil => rfl
  | cons e rest ih =>
    obtain ⟨hkey, hrest⟩ := not_or.mp (mt List.mem_cons.mpr h)
    calc overlay (t.insert key value) (e :: rest)
      _ = overlay ((t.insert e.1 e.2).insert key value) rest := by
        rw [insert_comm (Ne.symm hkey)]
        rfl
      _ = (overlay t (e :: rest)).insert key value := ih hrest _

/-- Entries that were stored may be stored again. -/
theorem overlay_overlay_self (h : Ordered u) (t : Table α) :
    overlay (overlay t u) u = overlay t u := by
  induction u generalizing t with
  | nil => rfl
  | cons e rest ih =>
    obtain ⟨hkey, hrest⟩ := List.nodup_cons.mp h.nodup
    calc overlay (overlay (t.insert e.1 e.2) rest) (e :: rest)
      _ = overlay ((overlay (t.insert e.1 e.2) rest).insert e.1 e.2) rest := rfl
      _ = overlay (overlay ((t.insert e.1 e.2).insert e.1 e.2) rest) rest := by
        rw [← overlay_insert hkey (t.insert e.1 e.2)]
      _ = overlay (overlay (t.insert e.1 e.2) rest) rest := by rw [insert_insert_self]
      _ = overlay (t.insert e.1 e.2) rest := ih (List.pairwise_cons.mp h).2 _

theorem overlay_self (h : Ordered t) : overlay t t = t := by
  have hself := overlay_overlay_self h []
  rwa [overlay_nil h] at hself

end MapStyle.Table
