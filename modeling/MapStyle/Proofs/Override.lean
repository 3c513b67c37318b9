import Mathlib.Data.List.Induction
import MapStyle.Override

/-!
# The overrides of owners

The calls of an owner override each other, so that of each owner only the last call counts: it
tells whether the owner has an override, which one, and where it stands. The owners stand in the
order of these calls, save that the owner without a name comes first.
-/

namespace MapStyle.Overrides

/-- A call that sets the override of an owner, or removes it. -/
structure Call where
  owner : String
  /-- The override that the call carries; none removes the override of the owner. -/
  value : Option Json

/-- The overrides after some calls. -/
def run (calls : List Call) : Overrides := calls.foldl (fun o c ↦ o.set c.owner c.value) {}

def last? (calls : List Call) (owner : String) : Option Call :=
  (calls.filter fun c ↦ c.owner == owner).getLast?

/-- The calls that no later call of their owner follows, in their order. -/
def lastCalls : List Call → List Call
  | [] => []
  | c :: rest => if c.owner ∈ rest.map Call.owner then lastCalls rest else c :: lastCalls rest

/-- The overrides that calls leave if none of them takes another's place. -/
def payloads (calls : List Call) : List (String × Table Json) :=
  calls.filterMap fun c ↦ c.value.map fun v ↦ (c.owner, permitted v)

variable {calls : List Call}

/-! ## The last calls -/

theorem owner_of_last? {owner : String} {c : Call} (h : last? calls owner = some c) :
    c.owner = owner := by
  simpa using (List.mem_filter.mp (List.mem_of_getLast? h)).2

theorem last?_concat (calls : List Call) (c : Call) (owner : String) :
    last? (calls ++ [c]) owner = if c.owner = owner then some c else last? calls owner := by
  by_cases h : c.owner = owner <;> simp [last?, List.filter_append, h]

/-- A call takes the place of the last call of its owner, at the end of all. -/
theorem lastCalls_concat (calls : List Call) (c : Call) :
    lastCalls (calls ++ [c]) = ((lastCalls calls).filter fun d ↦ d.owner != c.owner) ++ [c] := by
  induction calls with
  | nil => rfl
  | cons d rest ih =>
    rw [List.cons_append, lastCalls, lastCalls, ih]
    by_cases hrest : d.owner ∈ rest.map Call.owner
    · rw [if_pos hrest, if_pos (by simp_all)]
    · rw [if_neg hrest]
      by_cases hsame : d.owner = c.owner <;> simp_all

/-- Among the last calls an owner has the last of its own, and no other. -/
theorem filter_lastCalls (calls : List Call) (owner : String) :
    (lastCalls calls).filter (fun c ↦ c.owner == owner) = (last? calls owner).toList := by
  induction calls using List.reverseRecOn with
  | nil => rfl
  | append_singleton calls d ih =>
    rw [lastCalls_concat, last?_concat, List.filter_append]
    by_cases hsame : d.owner = owner
    · have hnone : (lastCalls calls).filter (fun c ↦ c.owner == owner && c.owner != owner)
          = [] := by
        simp
      simp [hsame, List.filter_filter, hnone]
    · have hkept : ((lastCalls calls).filter fun c ↦ c.owner != d.owner).filter
          (fun c ↦ c.owner == owner) = (lastCalls calls).filter fun c ↦ c.owner == owner := by
        rw [List.filter_filter]
        apply List.filter_congr
        intro c _
        by_cases hc : c.owner = owner
        · simp [hc, Ne.symm hsame]
        · simp [hc]
      simp [hsame, hkept, ih]

theorem mem_lastCalls {c : Call} : c ∈ lastCalls calls ↔ last? calls c.owner = some c := by
  rw [← Option.mem_toList, ← filter_lastCalls]
  simp

/-! ## The stack -/

theorem run_concat (calls : List Call) (c : Call) :
    run (calls ++ [c]) = (run calls).set c.owner c.value := by
  rw [run, run, List.foldl_append]
  rfl

theorem payloads_append (calls others : List Call) :
    payloads (calls ++ others) = payloads calls ++ payloads others :=
  List.filterMap_append ..

/-- To take out the override of an owner is to leave out the calls of the owner. -/
theorem filter_payloads (calls : List Call) (owner : String) :
    (payloads calls).filter (fun e ↦ e.1 != owner)
      = payloads (calls.filter fun c ↦ c.owner != owner) := by
  induction calls with
  | nil => rfl
  | cons c rest ih =>
    cases hvalue : c.value <;> by_cases howner : c.owner = owner <;> simp_all [payloads]

/-- A call takes out the override of its owner, and puts what it carries to the bottom or to the
top. -/
theorem entries_set (o : Overrides) (c : Call) :
    (o.set c.owner c.value).entries
      = if c.owner = "" then payloads [c] ++ o.entries.filter fun e ↦ e.1 != c.owner
        else (o.entries.filter fun e ↦ e.1 != c.owner) ++ payloads [c] := by
  by_cases hname : c.owner = "" <;> cases hvalue : c.value <;> simp [set, payloads, hname, hvalue]

/-- The stack holds what the last calls carry, the nameless owner below all others. -/
theorem entries_run (calls : List Call) :
    (run calls).entries
      = payloads ((lastCalls calls).filter fun c ↦ c.owner == "")
        ++ payloads ((lastCalls calls).filter fun c ↦ c.owner != "") := by
  induction calls using List.reverseRecOn with
  | nil => rfl
  | append_singleton calls c ih =>
    rw [run_concat, entries_set, ih, lastCalls_concat, List.filter_append, List.filter_append,
      List.filter_append, filter_payloads, filter_payloads, payloads_append, payloads_append]
    by_cases hname : c.owner = ""
    · have hnone : (lastCalls calls).filter (fun d ↦ d.owner == "" && d.owner != "") = [] := by
        simp
      simp [hname, List.filter_filter, hnone, payloads]
    · simp [hname, List.filter_filter, Bool.and_comm, payloads]

theorem owners_payloads (calls : List Call) :
    (payloads calls).map Prod.fst = (calls.filter fun c ↦ c.value.isSome).map Call.owner := by
  induction calls with
  | nil => rfl
  | cons c rest ih => cases hvalue : c.value <;> simp_all [payloads]

/-- The owners are those whose last call carries a value, in the order of these calls, and the
nameless owner comes first. -/
theorem owners_run (calls : List Call) :
    (run calls).owners
      = (if ((last? calls "").bind Call.value).isSome then [""] else [])
        ++ ((lastCalls calls).filter fun c ↦ c.owner != "" && c.value.isSome).map Call.owner := by
  rw [owners, entries_run, List.map_append, owners_payloads, owners_payloads, filter_lastCalls,
    List.filter_filter]
  congr 1
  · cases hlast : last? calls "" with
    | none => rfl
    | some c =>
      have howner : c.owner = "" := owner_of_last? hlast
      cases hvalue : c.value <;> simp [hvalue, howner]
  · simp only [Bool.and_comm]

/-- The payload of an owner is what is permitted of the last value that it set. -/
theorem mem_entries_run {owner : String} {payload : Table Json} :
    (owner, payload) ∈ (run calls).entries ↔
      ∃ v, (last? calls owner).bind Call.value = some v ∧ payload = permitted v := by
  have hmem : (owner, payload) ∈ (run calls).entries ↔
      ∃ c ∈ lastCalls calls, ∃ v, c.value = some v ∧ c.owner = owner ∧ permitted v = payload := by
    simp only [entries_run, payloads, List.mem_append, List.mem_filterMap, List.mem_filter,
      Option.map_eq_some_iff, Prod.mk.injEq, beq_iff_eq, bne_iff_ne]
    grind
  rw [hmem]
  constructor
  · rintro ⟨c, hc, v, hvalue, rfl, rfl⟩
    exact ⟨v, by rw [mem_lastCalls.mp hc, Option.bind_some, hvalue], rfl⟩
  · rintro ⟨v, hlast, rfl⟩
    obtain ⟨c, hc, hvalue⟩ := Option.bind_eq_some_iff.mp hlast
    have howner : c.owner = owner := owner_of_last? hc
    exact ⟨c, mem_lastCalls.mpr (howner ▸ hc), v, hvalue, howner, rfl⟩

/-- An owner that sets again keeps its one place. -/
theorem nodup_owners_set {o : Overrides} (h : o.owners.Nodup) (owner : String)
    (value : Option Json) : (o.set owner value).owners.Nodup := by
  have hothers : ((o.entries.filter fun e ↦ e.1 != owner).map Prod.fst).Nodup :=
    (List.filter_sublist.map _).nodup h
  have hnew : owner ∉ (o.entries.filter fun e ↦ e.1 != owner).map Prod.fst := by
    simp
  cases value with
  | none => exact hothers
  | some v =>
    rw [owners, set]
    split
    · rename_i hname
      exact List.nodup_cons.mpr ⟨hname ▸ hnew, hothers⟩
    · rw [List.map_append]
      exact (List.perm_append_singleton _ _).nodup_iff.mpr (List.nodup_cons.mpr ⟨hnew, hothers⟩)

theorem nodup_owners_run (calls : List Call) : (run calls).owners.Nodup := by
  induction calls using List.reverseRecOn with
  | nil => exact List.nodup_nil
  | append_singleton calls c ih => exact run_concat calls c ▸ nodup_owners_set ih c.owner c.value

/-! ## What an override carries -/

/-- Of a value a payload admits the members that are named for a category, in their order. A value
that is no object has no members. -/
structure Admits (v : Json) (payload : Table Json) : Prop where
  sublist : ∀ members, v = .object members → payload.Sublist members
  mem_iff : ∀ m, m ∈ payload ↔
    (∃ members, v = .object members ∧ m ∈ members) ∧ ∃ c : Category, c.key = m.1

/-- A name belongs to a category exactly if it is the key of one. -/
theorem isSome_ofKey?_iff {name : String} :
    (Category.ofKey? name).isSome ↔ ∃ c : Category, c.key = name := by
  constructor
  · intro h
    obtain ⟨c, hc⟩ := Option.isSome_iff_exists.mp h
    exact ⟨c, by simpa using List.find?_some hc⟩
  · rintro ⟨c, rfl⟩
    rw [Category.ofKey?_key]
    rfl

theorem mem_permitted_iff {v : Json} {m : String × Json} :
    m ∈ permitted v ↔ (∃ members, v = .object members ∧ m ∈ members) ∧
      ∃ c : Category, c.key = m.1 := by
  cases v with
  | object members => simp [permitted, isSome_ofKey?_iff]
  | _ => simp [permitted]

theorem admits_permitted (v : Json) : Admits v (permitted v) where
  sublist := by
    rintro members rfl
    exact List.filter_sublist
  mem_iff _ := mem_permitted_iff

/-! ## What the last calls tell -/

/-- Overrides change the appearances of a feature alone. -/
@[simp] theorem apply_feature (o : Overrides) (f : StyledFeature) :
    (o.apply f).feature = f.feature := by
  unfold apply
  split <;> rfl

theorem merged?_eq_none_iff {o : Overrides} : o.merged? = none ↔ o.owners = [] := by
  simp [merged?, isEmpty, owners]

/-- Overrides that are told by the last call of each owner. -/
structure ToldBy (o : Overrides) (calls : List Call) : Prop where
  owners_eq : o.owners
    = (if ((last? calls "").bind Call.value).isSome then [""] else [])
      ++ ((lastCalls calls).filter fun c ↦ c.owner != "" && c.value.isSome).map Call.owner
  once : o.owners.Nodup
  payload_iff : ∀ owner payload, (owner, payload) ∈ o.entries ↔
    ∃ v, (last? calls owner).bind Call.value = some v ∧ payload = permitted v
  admits : ∀ owner payload, (owner, payload) ∈ o.entries → ∀ v,
    (last? calls owner).bind Call.value = some v → Admits v payload
  categories : ∀ e ∈ o.entries, ∀ m ∈ e.2, (Category.ofKey? m.1).isSome
  merged : o.merged? = none ↔ o.owners = []

/-- Whatever calls are made, the last call of each owner tells the overrides. -/
theorem toldBy_run (calls : List Call) : (run calls).ToldBy calls where
  owners_eq := owners_run calls
  once := nodup_owners_run calls
  payload_iff _ _ := mem_entries_run
  admits owner payload hpayload v hlast := by
    obtain ⟨w, hlast', rfl⟩ := mem_entries_run.mp hpayload
    obtain rfl : v = w := Option.some.inj (hlast.symm.trans hlast')
    exact admits_permitted v
  categories e he m hm := by
    obtain ⟨v, -, hpayload⟩ := mem_entries_run.mp he
    exact isSome_ofKey?_iff.mpr (mem_permitted_iff.mp (hpayload ▸ hm)).2
  merged := merged?_eq_none_iff

example : (run [⟨"a", some .null⟩, ⟨"b", some .null⟩, ⟨"", some .null⟩, ⟨"c", some .null⟩,
    ⟨"a", some .null⟩, ⟨"c", none⟩]).owners = ["", "b", "a"] := by decide

end MapStyle.Overrides
