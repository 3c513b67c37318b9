import MapStyle.Json.Reader
import MapStyle.Json.Record
import MapStyle.Proofs.Table

/-!
# Values whose objects are tables

A value that is held, and not written, has the members of all its objects in the order of their
keys; every value that is read from a text is of this kind. A record that was written is held under
the same names, though in another order, and a value that is held already stays as it is.
-/

namespace MapStyle.Json

mutual

/-- The members of all objects are in the order of their keys. -/
def Tabled : Json → Prop
  | array items => TabledItems items
  | object members => Table.Ordered members ∧ TabledMembers members
  | _ => True

@[inherit_doc Tabled]
def TabledItems : List Json → Prop
  | [] => True
  | v :: rest => Tabled v ∧ TabledItems rest

@[inherit_doc Tabled]
def TabledMembers : List (String × Json) → Prop
  | [] => True
  | (_, v) :: rest => Tabled v ∧ TabledMembers rest

end

mutual

/-- The value with the members of all objects put in the order of their keys. -/
def tabled : Json → Json
  | array items => array (tabledItems items)
  | object members => object (Table.ofEntries (tabledMembers members))
  | v => v

@[inherit_doc tabled]
def tabledItems : List Json → List Json
  | [] => []
  | v :: rest => tabled v :: tabledItems rest

@[inherit_doc tabled]
def tabledMembers : List (String × Json) → List (String × Json)
  | [] => []
  | (key, v) :: rest => (key, tabled v) :: tabledMembers rest

end

mutual

/-- Whether the objects of a value are tables can be told. -/
def decidableTabled : (v : Json) → Decidable v.Tabled
  | array items => decidableTabledItems items
  | object members =>
    have := decidableTabledMembers members
    inferInstanceAs (Decidable (List.Pairwise _ members ∧ TabledMembers members))
  | null => .isTrue trivial
  | bool _ => .isTrue trivial
  | number _ => .isTrue trivial
  | string _ => .isTrue trivial

@[inherit_doc decidableTabled]
def decidableTabledItems : (items : List Json) → Decidable (TabledItems items)
  | [] => .isTrue trivial
  | v :: rest =>
    have := decidableTabled v
    have := decidableTabledItems rest
    inferInstanceAs (Decidable (v.Tabled ∧ TabledItems rest))

@[inherit_doc decidableTabled]
def decidableTabledMembers : (members : List (String × Json)) → Decidable (TabledMembers members)
  | [] => .isTrue trivial
  | (_, v) :: rest =>
    have := decidableTabled v
    have := decidableTabledMembers rest
    inferInstanceAs (Decidable (v.Tabled ∧ TabledMembers rest))

end

instance : DecidablePred Tabled := decidableTabled

theorem tabledItems_iff {items : List Json} : TabledItems items ↔ ∀ v ∈ items, v.Tabled := by
  induction items with
  | nil => simp [TabledItems]
  | cons v rest ih => simp [TabledItems, ih]

theorem tabledMembers_iff {members : List (String × Json)} :
    TabledMembers members ↔ ∀ m ∈ members, m.2.Tabled := by
  induction members with
  | nil => simp [TabledMembers]
  | cons m rest ih => simp [TabledMembers, ih]

@[simp] theorem tabled_array_iff {items : List Json} :
    (array items).Tabled ↔ ∀ v ∈ items, v.Tabled := by
  rw [Tabled, tabledItems_iff]

@[simp] theorem tabled_object_iff {members : List (String × Json)} :
    (object members).Tabled ↔ Table.Ordered members ∧ ∀ m ∈ members, m.2.Tabled := by
  rw [Tabled, tabledMembers_iff]

theorem tabledItems_eq (items : List Json) : tabledItems items = items.map tabled := by
  induction items with
  | nil => rfl
  | cons v rest ih => rw [tabledItems, ih, List.map_cons]

theorem tabledMembers_eq (members : List (String × Json)) :
    tabledMembers members = Table.mapValues tabled members := by
  induction members with
  | nil => rfl
  | cons m rest ih =>
    rw [tabledMembers, ih]
    rfl

theorem Tabled.of_get? {members : List (String × Json)} {key : String} {v : Json}
    (h : (object members).Tabled) (hv : Table.get? members key = some v) : v.Tabled :=
  (tabled_object_iff.mp h).2 _ (Table.mem_of_get? hv)

theorem Tabled.insert {members : List (String × Json)} {v : Json} (h : (object members).Tabled)
    (hv : v.Tabled) (key : String) : (object (Table.insert key v members)).Tabled := by
  obtain ⟨hordered, hmembers⟩ := tabled_object_iff.mp h
  refine tabled_object_iff.mpr ⟨hordered.insert key v, fun m hm ↦ ?_⟩
  rcases Table.mem_insert hm with rfl | hm
  · exact hv
  · exact hmembers m hm

mutual

/-- A value whose objects are tables stays as it is. -/
theorem Tabled.tabled_eq : ∀ {v : Json}, v.Tabled → v.tabled = v
  | array _, h => congrArg array (TabledItems.tabledItems_eq h)
  | object _, h => by
    rw [tabled, TabledMembers.tabledMembers_eq h.2, Table.ofEntries_of_ordered h.1]
  | null, _ => rfl
  | bool _, _ => rfl
  | number _, _ => rfl
  | string _, _ => rfl

theorem TabledItems.tabledItems_eq : ∀ {items : List Json}, TabledItems items →
    tabledItems items = items
  | [], _ => rfl
  | _ :: _, h => by rw [tabledItems, h.1.tabled_eq, h.2.tabledItems_eq]

theorem TabledMembers.tabledMembers_eq : ∀ {members : List (String × Json)},
    TabledMembers members → tabledMembers members = members
  | [], _ => rfl
  | _ :: _, h => by rw [tabledMembers, h.1.tabled_eq, h.2.tabledMembers_eq]

end

/-! ## Values that are read from a text -/

section Reading

variable {α : Type} {P : α → Prop} {item : List Char → Option (α × List Char)}
  (hitem : ∀ {s left a}, item s = some (a, left) → P a)

include hitem

/-- Whatever holds of each item that is read holds of all items behind the first. -/
theorem forall_of_readMore {close : Char} {s left : List Char} {as : List α}
    (h : readMore item close s = some (as, left)) : ∀ a ∈ as, P a := by
  fun_induction readMore item close s generalizing as left with
  | case2 =>
    cases h
    exact List.forall_mem_nil _
  | case4 s rest a left' hread _ _ _ ih =>
    obtain ⟨⟨others, last⟩, hmore, heq⟩ := Option.map_eq_some_iff.mp h
    cases heq
    exact List.forall_mem_cons.mpr ⟨hitem hread, ih hmore⟩
  | _ => cases h

/-- Whatever holds of each item that is read holds of all items. -/
theorem forall_of_readItems {close : Char} {s left : List Char} {as : List α}
    (h : readItems item close s = some (as, left)) : ∀ a ∈ as, P a := by
  unfold readItems at h
  split at h
  · cases h
  · split at h
    · cases h
      exact List.forall_mem_nil _
    · obtain ⟨⟨a, left'⟩, ha, h⟩ := Option.bind_eq_some_iff.mp h
      obtain ⟨⟨others, last⟩, hmore, heq⟩ := Option.bind_eq_some_iff.mp h
      cases heq
      exact List.forall_mem_cons.mpr ⟨hitem ha, forall_of_readMore hitem hmore⟩

end Reading

/-- The value of a member comes from the reader of values. -/
theorem tabled_of_readMember {value : List Char → Option (Json × List Char)}
    (hvalue : ∀ {s left v}, value s = some (v, left) → v.Tabled) {s left : List Char}
    {m : String × Json} (h : readMember value s = some (m, left)) : m.2.Tabled := by
  unfold readMember at h
  split at h
  · simp only [Option.bind_eq_bind, Option.bind_eq_some_iff] at h
    obtain ⟨⟨key, rest⟩, -, h⟩ := h
    split at h
    · obtain ⟨⟨v, last⟩, hv, heq⟩ := Option.bind_eq_some_iff.mp h
      cases heq
      exact hvalue hv
    · cases h
  · cases h

theorem tabled_of_readWord {word s left : List Char} {value v : Json} (hvalue : value.Tabled)
    (h : readWord word value s = some (v, left)) : v.Tabled := by
  unfold readWord at h
  split at h
  · cases h
    exact hvalue
  · cases h

theorem tabled_of_readValue {depth : Nat} {s left : List Char} {v : Json}
    (h : readValue depth s = some (v, left)) : v.Tabled := by
  -- On the depth that containers may nest, as the reader recurs; the induction is a strong one so
  -- that both kinds of containers can be told apart before the depth is.
  induction depth using Nat.strongRecOn generalizing s left v with
  | ind depth ih =>
    unfold readValue at h
    split at h
    · cases h
    iterate 3
      · refine tabled_of_readWord ?_ h
        trivial
    · obtain ⟨_, -, heq⟩ := Option.map_eq_some_iff.mp h
      cases heq
      trivial
    · split at h
      · cases h
      · rename_i depth
        obtain ⟨⟨items, last⟩, hitems, heq⟩ := Option.map_eq_some_iff.mp h
        cases heq
        exact tabled_array_iff.mpr (forall_of_readItems (ih depth (Nat.lt_succ_self _)) hitems)
    · split at h
      · cases h
      · rename_i depth
        obtain ⟨⟨members, last⟩, hmembers, heq⟩ := Option.map_eq_some_iff.mp h
        cases heq
        have hall := forall_of_readItems (P := fun m : String × Json ↦ m.2.Tabled)
          (tabled_of_readMember (ih depth (Nat.lt_succ_self _))) hmembers
        exact tabled_object_iff.mpr ⟨Table.ordered_ofEntries members,
          fun m hm ↦ hall m (Table.mem_of_mem_ofEntries hm)⟩
    · obtain ⟨_, -, heq⟩ := Option.map_eq_some_iff.mp h
      cases heq
      trivial

/-- The objects of a value that is read from a text are tables. -/
theorem tabled_of_read? {text : String} {v : Json} (h : read? text = some v) : v.Tabled := by
  unfold read? at h
  split at h
  · rename_i hvalue
    split at h
    · cases h
      exact tabled_of_readValue hvalue
    · cases h
  · cases h

/-! ## Ways to hold a value -/

/-- A way to hold values that keeps what is read of them: a record is held under the same names,
and what is held already stays as it is. -/
structure Holding (hold : Json → Json) : Prop where
  array : ∀ items, hold (.array items) = .array (items.map hold)
  record : ∀ members, (members.map (·.1)).Nodup → ∃ held,
    hold (.object members) = .object held ∧
      ∀ name, Table.get? held name = (Table.get? members name).map hold
  table : ∀ members, Table.Ordered members →
    hold (.object members) = .object (Table.mapValues hold members)
  eq_of_tabled : ∀ {v : Json}, v.Tabled → hold v = v

theorem Holding.string {hold : Json → Json} (h : Holding hold) (s : String) :
    hold (.string s) = .string s :=
  h.eq_of_tabled trivial

/-- Values may be held as they are written. -/
theorem holding_id : Holding id where
  array items := by simp
  record members _ := ⟨members, rfl, fun name ↦ by simp⟩
  table _ _ := by simp [Table.mapValues]
  eq_of_tabled _ := rfl

/-- Values may be held with the members of all objects in the order of their keys. -/
theorem holding_tabled : Holding tabled where
  array items := congrArg Json.array (tabledItems_eq items)
  record members h := by
    refine ⟨_, by rw [tabled, tabledMembers_eq], fun name ↦ ?_⟩
    have hkeys : ((Table.mapValues tabled members).map (·.1)).Nodup := by
      simpa [Table.mapValues, Function.comp_def] using h
    rw [Table.get?_ofEntries hkeys, Table.get?_mapValues]
  table members h := by
    rw [tabled, tabledMembers_eq, Table.ofEntries_of_ordered (h.mapValues tabled)]
  eq_of_tabled h := h.tabled_eq

end MapStyle.Json
