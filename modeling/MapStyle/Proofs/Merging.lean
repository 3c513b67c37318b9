import MapStyle.Proofs.Resolution

/-!
# Merging composes

Merging the same override again changes nothing, and merging into nothing gives the override. That
two overrides may be merged with each other first holds where the lower one is an object wherever
the value below it and the override above it are objects: elsewhere the lower override hides the
fields of the value below, and the merged one does not.
-/

namespace MapStyle.Overrides

variable {a b c v w : Json} {below above : Option Json} {base top result : Table Json}

/-! ## One key -/

/-- Unless both are objects, the overriding value is taken whole. -/
theorem mergeMember_eq_self (h : below.bind Json.object? = none ∨ w.object? = none) :
    mergeMember below w = w := by
  fun_cases mergeMember below w with
  | case1 => simp [Json.object?] at h
  | case2 => rfl

/-- A value that was merged in may be merged in again. -/
theorem mergeMember_mergeMember_self (h : w.Tabled) (below : Option Json) :
    mergeMember (some (mergeMember below w)) w = mergeMember below w := by
  fun_cases mergeMember below w with
  | case1 base top =>
    exact congrArg Json.object (Table.overlay_overlay_self (Json.tabled_object_iff.mp h).1 base)
  | case2 =>
    cases hw : w.object? with
    | none => exact mergeMember_eq_self (.inr hw)
    | some top =>
      obtain rfl := Json.object?_eq_some_iff.mp hw
      exact congrArg Json.object (Table.overlay_self (Json.tabled_object_iff.mp h).1)

/-- Of three values, the upper two may be merged first unless the middle one alone is no object. -/
theorem mergeMember_assoc {u : Json} (hu : u.Tabled) (hv : v.Tabled) (hw : w.Tabled)
    (h : u.object?.isSome → w.object?.isSome → v.object?.isSome) :
    mergeMember (some (mergeMember (some u) v)) w
      = mergeMember (some u) (mergeMember (some v) w) := by
  cases hw' : w.object? with
  | none =>
    rw [mergeMember_eq_self (.inr hw'), mergeMember_eq_self (.inr hw'),
      mergeMember_eq_self (.inr hw')]
  | some ws =>
    cases hu' : u.object? with
    | none =>
      have hreplaced (x : Json) : mergeMember (some u) x = x := mergeMember_eq_self (.inl hu')
      rw [hreplaced, hreplaced]
    | some us =>
      obtain ⟨vs, hv'⟩ := Option.isSome_iff_exists.mp (h (by simp [hu']) (by simp [hw']))
      obtain rfl := Json.object?_eq_some_iff.mp hu'
      obtain rfl := Json.object?_eq_some_iff.mp hv'
      obtain rfl := Json.object?_eq_some_iff.mp hw'
      exact congrArg Json.object (Table.overlay_assoc (Json.tabled_object_iff.mp hu).1
        (Json.tabled_object_iff.mp hv).1 (Json.tabled_object_iff.mp hw).1)

theorem mergeAll_none_toList (above : Option Json) : mergeAll none above.toList = above := by
  cases above <;> rfl

theorem mergeAll_mergeAll_self (h : ∀ w ∈ above, w.Tabled) (below : Option Json) :
    mergeAll (mergeAll below above.toList) above.toList = mergeAll below above.toList := by
  cases above with
  | none => rfl
  | some w => exact congrArg some (mergeMember_mergeMember_self (h w rfl) below)

/-- What a key holds may be merged from the upper two of three values first. -/
theorem mergeAll_assoc {x y z : Option Json} (hx : ∀ u ∈ x, u.Tabled) (hy : ∀ v ∈ y, v.Tabled)
    (hz : ∀ w ∈ z, w.Tabled) (h : ∀ u ∈ x, ∀ v ∈ y, ∀ w ∈ z,
      u.object?.isSome → w.object?.isSome → v.object?.isSome) :
    mergeAll (mergeAll x y.toList) z.toList = mergeAll x (mergeAll y z.toList).toList := by
  cases z with
  | none => rfl
  | some w =>
    cases y with
    | none => rfl
    | some v =>
      cases x with
      | none => rfl
      | some u =>
        exact congrArg some (mergeMember_assoc (hx u rfl) (hy v rfl) (hz w rfl)
          (h u rfl v rfl w rfl))

/-! ## Two levels -/

/-- Unless both are objects, the overriding side is taken whole. -/
theorem merge_eq_self (h : a.object? = none ∨ b.object? = none) : merge a b = b := by
  fun_cases merge a b with
  | case1 => simp [Json.object?] at h
  | case2 => rfl

/-- Two objects merged are the table that holds under each key what both hold there, merged. -/
theorem merge_eq_object (hbase : (Json.object base).Tabled) (htop : (Json.object top).Tabled)
    (hresult : Table.Ordered result)
    (h : ∀ key, mergeAll (Table.get? base key) (Table.get? top key).toList
      = Table.get? result key) :
    merge (.object base) (.object top) = .object result := by
  obtain ⟨merged, hmerged, htabled, hkeys⟩ := merge_tables hbase htop
  have hsame : merged = result := (Json.tabled_object_iff.mp htabled).1.eq_of_get? hresult
    fun key ↦ (hkeys key).trans (h key)
  rw [hmerged, hsame]

theorem tabled_nil : (Json.object []).Tabled :=
  Json.tabled_object_iff.mpr ⟨.nil, List.forall_mem_nil _⟩

theorem merge_empty (h : b.Tabled) : merge (.object []) b = b := by
  cases hb : b.object? with
  | none => exact merge_eq_self (.inr hb)
  | some top =>
    obtain rfl := Json.object?_eq_some_iff.mp hb
    refine merge_eq_object tabled_nil h (Json.tabled_object_iff.mp h).1 fun key ↦ ?_
    rw [Table.get?_nil, mergeAll_none_toList]

/-- What was merged before changes nothing when it is merged again. -/
theorem merge_merge_self (ha : a.Tabled) (hb : b.Tabled) : merge (merge a b) b = merge a b := by
  cases hb' : b.object? with
  | none => rw [merge_eq_self (.inr hb'), merge_eq_self (.inr hb')]
  | some top =>
    obtain rfl := Json.object?_eq_some_iff.mp hb'
    have hvalues (key : String) : ∀ w ∈ Table.get? top key, w.Tabled := fun _ ↦ hb.of_get?
    cases ha' : a.object? with
    | none =>
      rw [merge_eq_self (.inl ha')]
      refine merge_eq_object hb hb (Json.tabled_object_iff.mp hb).1 fun key ↦ ?_
      have hself := mergeAll_mergeAll_self (hvalues key) none
      rwa [mergeAll_none_toList] at hself
    | some base =>
      obtain rfl := Json.object?_eq_some_iff.mp ha'
      obtain ⟨merged, hmerged, htabled, hkeys⟩ := merge_tables ha hb
      rw [hmerged]
      refine merge_eq_object htabled hb (Json.tabled_object_iff.mp htabled).1 fun key ↦ ?_
      rw [hkeys, mergeAll_mergeAll_self (hvalues key)]

/-- A value that is an object wherever those below and above it are: itself if both are objects, and
its value under every key that all three have if both have an object there. -/
structure Bridges (a b c : Json) : Prop where
  object : a.object?.isSome → c.object?.isSome → b.object?.isSome
  member : ∀ key, ∀ u ∈ a.member? key, ∀ v ∈ b.member? key, ∀ w ∈ c.member? key,
    u.object?.isSome → w.object?.isSome → v.object?.isSome

/-- An object that holds objects alone bridges any values. -/
theorem bridges_of_objects (h : ∀ m ∈ base, m.2.object?.isSome) (a c : Json) :
    Bridges a (.object base) c where
  object _ _ := rfl
  member _ _ _ _ hv _ _ _ _ := h _ (Table.mem_of_get? hv)

/-- The upper two of three values may be merged first. -/
theorem merge_assoc (ha : a.Tabled) (hb : b.Tabled) (hc : c.Tabled) (h : Bridges a b c) :
    merge (merge a b) c = merge a (merge b c) := by
  cases hc' : c.object? with
  | none => rw [merge_eq_self (.inr hc'), merge_eq_self (.inr hc'), merge_eq_self (.inr hc')]
  | some cs =>
    cases ha' : a.object? with
    | none => rw [merge_eq_self (.inl ha'), merge_eq_self (.inl ha')]
    | some as =>
      obtain ⟨bs, hb'⟩ := Option.isSome_iff_exists.mp (h.object (by simp [ha']) (by simp [hc']))
      obtain rfl := Json.object?_eq_some_iff.mp ha'
      obtain rfl := Json.object?_eq_some_iff.mp hb'
      obtain rfl := Json.object?_eq_some_iff.mp hc'
      obtain ⟨lower, hlower, hlowerTabled, hlowerKeys⟩ := merge_tables ha hb
      obtain ⟨upper, hupper, hupperTabled, hupperKeys⟩ := merge_tables hb hc
      obtain ⟨whole, hwhole, hwholeTabled, hwholeKeys⟩ := merge_tables ha hupperTabled
      rw [hlower, hupper, hwhole]
      refine merge_eq_object hlowerTabled hc (Json.tabled_object_iff.mp hwholeTabled).1 fun key ↦ ?_
      rw [hlowerKeys, hwholeKeys, hupperKeys]
      exact mergeAll_assoc (fun _ ↦ ha.of_get?) (fun _ ↦ hb.of_get?) (fun _ ↦ hc.of_get?)
        (h.member key)

/-! ## Several overrides -/

/-- Objects that are merged make an object. -/
theorem isSome_object?_of_mergeAll {payloads : List Json} (h : ∀ p ∈ payloads, p.object?.isSome)
    (hw : mergeAll none payloads = some w) : w.object?.isSome := by
  rcases payloads.eq_nil_or_concat with rfl | ⟨before, v, rfl⟩
  · contradiction
  · rw [List.concat_eq_append, mergeAll_concat, Option.some.injEq] at hw
    subst hw
    have hv := h v (by simp)
    rw [Option.isSome_iff_ne_none] at hv ⊢
    exact object?_mergeMember_eq_none_iff.not.mpr hv

/-- Overrides that bridge each other over a value may be merged with each other first, and then into
the value. -/
theorem foldl_merge_eq_merge {a : Json} (ha : a.Tabled) {entries : List (String × Table Json)}
    (h : ∀ e ∈ entries, (Json.object e.2).Tabled)
    (hbridges : entries.Pairwise fun d e ↦ Bridges a (.object d.2) (.object e.2))
    (hnil : entries = [] → a.object?.isSome) :
    entries.foldl (fun below e ↦ merge below (.object e.2)) a
      = merge a (entries.foldl (fun below e ↦ merge below (.object e.2)) (.object [])) := by
  induction entries using List.reverseRecOn with
  | nil =>
    obtain ⟨base, hbase⟩ := Option.isSome_iff_exists.mp (hnil rfl)
    obtain rfl := Json.object?_eq_some_iff.mp hbase
    exact (merge_eq_object ha tabled_nil (Json.tabled_object_iff.mp ha).1 fun _ ↦ rfl).symm
  | append_singleton entries e ih =>
    have hentries : ∀ d ∈ entries, (Json.object d.2).Tabled :=
      fun d hd ↦ h d (List.mem_append_left _ hd)
    have he : (Json.object e.2).Tabled := h e (by simp)
    obtain ⟨hpairs, -, hlast⟩ := List.pairwise_append.mp hbridges
    rw [List.foldl_concat, List.foldl_concat]
    by_cases hempty : entries = []
    · rw [hempty, List.foldl_nil, List.foldl_nil, merge_empty he]
    · obtain ⟨merged, hmerged, htabled, hkeys⟩ := foldl_merge hentries tabled_nil
      have hmember : Bridges a (.object merged) (.object e.2) := by
        refine ⟨fun _ _ ↦ rfl, fun key u hu v hv w hw hu' hw' ↦ ?_⟩
        refine isSome_object?_of_mergeAll (fun p hp ↦ ?_) ((hkeys key).symm.trans hv)
        obtain ⟨d, hd, hget⟩ := List.mem_filterMap.mp hp
        exact (hlast d hd e List.mem_cons_self).member key u hu p hget w hw hu' hw'
      rw [ih hentries hpairs fun hnil' ↦ absurd hnil' hempty, hmerged,
        merge_assoc ha htabled he hmember]

/-! ## Features -/

/-- The fields of a category that were overridden may be overridden again. -/
theorem object?_mergeAll_self (h : ∀ w ∈ above, w.Tabled) (own : Option (Table Json)) :
    (mergeAll (((mergeAll (own.map .object) above.toList).bind Json.object?).map .object)
        above.toList).bind Json.object?
      = (mergeAll (own.map .object) above.toList).bind Json.object? := by
  cases above with
  | none => cases own <;> rfl
  | some w =>
    simp only [Option.toList, mergeAll, List.foldl_cons, List.foldl_nil, Option.bind_some]
    cases hshown : (mergeMember (own.map .object) w).object? with
    | none => exact object?_mergeMember_eq_none_iff.mpr (object?_mergeMember_eq_none_iff.mp hshown)
    | some top =>
      have hself := mergeMember_mergeMember_self (h w rfl) (own.map .object)
      rw [Json.object?_eq_some_iff.mp hshown] at hself
      rw [Option.map_some, hself]
      rfl

theorem override_override_self (h : (Json.object top).Tabled) (f : StyledFeature) :
    override (override f (.object top)) (.object top) = override f (.object top) := by
  have happearances : (override (override f (.object top)) (.object top)).appearances
      = (override f (.object top)).appearances := by
    apply ByCategory.ext_get?
    intro c
    rw [get?_override h, get?_override h, object?_mergeAll_self fun _ ↦ h.of_get?]
  exact congrArg (StyledFeature.mk f.feature) happearances

/-- Overrides that were applied may be applied again. -/
theorem apply_apply_self {o : Overrides} (h : ∀ e ∈ o.entries, (Json.object e.2).Tabled)
    (f : StyledFeature) : o.apply (o.apply f) = o.apply f := by
  obtain ⟨merged, hfold, htabled, -⟩ := foldl_merge h tabled_nil
  cases hmerged : o.merged? with
  | none => simp only [apply, hmerged]
  | some top =>
    have htop : top = .object merged := by
      rw [merged?, Option.ite_none_left_eq_some] at hmerged
      rw [← hfold]
      exact (Option.some.inj hmerged.2).symm
    simp only [apply, hmerged, htop, override_override_self htabled]

/-- Merging composes. An override may be merged in again, and merged into nothing it is itself. The
upper two of three values may be merged first if the middle one bridges the others, and so may all
overrides of a stack if they bridge each other, as they do where they hold objects alone. Overrides
may be applied to a feature again. -/
theorem merge_laws :
    (∀ a b : Json, a.Tabled → b.Tabled → merge (merge a b) b = merge a b) ∧
    (∀ b : Json, b.Tabled → merge (.object []) b = b) ∧
    (∀ a b c : Json, a.Tabled → b.Tabled → c.Tabled → Bridges a b c →
      merge (merge a b) c = merge a (merge b c)) ∧
    (∀ (a : Json) (entries : List (String × Table Json)), a.Tabled →
      (∀ e ∈ entries, (Json.object e.2).Tabled) →
      (entries.Pairwise fun d e ↦ Bridges a (.object d.2) (.object e.2)) →
      (entries = [] → a.object?.isSome) →
      entries.foldl (fun below e ↦ merge below (.object e.2)) a
        = merge a (entries.foldl (fun below e ↦ merge below (.object e.2)) (.object []))) ∧
    (∀ (o : Overrides) (f : StyledFeature), (∀ e ∈ o.entries, (Json.object e.2).Tabled) →
      o.apply (o.apply f) = o.apply f) :=
  ⟨fun _ _ ↦ merge_merge_self, fun _ ↦ merge_empty, fun _ _ _ ↦ merge_assoc,
    fun _ _ ha h hbridges hnil ↦ foldl_merge_eq_merge ha h hbridges hnil,
    fun _ f h ↦ apply_apply_self h f⟩

/-- The lower of two overrides has no polygon, and makes an object of the model, which was a text;
the upper one has fields for both. -/
theorem merge_laws_model :
    let a : Json := .object [("marker", .object [("pointColor", .string "blue"), ("show", .null)]),
      ("model", .string "m"), ("polygon", .object [("fill", .bool true)])]
    let b : Table Json := [("marker", .object [("pointColor", .string "red")]),
      ("model", .object [("url", .string "n")])]
    let c : Table Json := [("marker", .object [("show", .bool false)]),
      ("model", .object [("scale", .null)]), ("polygon", .object [("stroke", .null)])]
    let o : Overrides := { entries := [("", b), ("owner", c)] }
    let f : StyledFeature := ⟨{ id := "f" }, Appearances.ofJson a⟩
    (a.Tabled ∧ (Json.object b).Tabled ∧ (Json.object c).Tabled ∧
      Bridges a (.object b) (.object c)) ∧
    merge (merge a (.object b)) (.object b) = merge a (.object b) ∧
    merge (.object []) (.object c) = .object c ∧
    merge (merge a (.object b)) (.object c) = merge a (merge (.object b) (.object c)) ∧
    o.entries.foldl (fun below e ↦ merge below (.object e.2)) a
      = merge a (o.entries.foldl (fun below e ↦ merge below (.object e.2)) (.object [])) ∧
    o.apply (o.apply f) = o.apply f := by
  intro a b c o f
  have ha : a.Tabled := by decide
  have hb : (Json.object b).Tabled := by decide
  have hc : (Json.object c).Tabled := by decide
  have hbridges : Bridges a (.object b) (.object c) := by
    apply bridges_of_objects
    simp [b, Json.object?]
  have hentries : ∀ e ∈ o.entries, (Json.object e.2).Tabled := by
    simp only [o, List.forall_mem_cons]
    exact ⟨hb, hc, List.forall_mem_nil _⟩
  have hpairs : o.entries.Pairwise fun d e ↦ Bridges a (.object d.2) (.object e.2) := by
    simp only [o, List.pairwise_cons, List.mem_singleton, forall_eq]
    exact ⟨hbridges, List.forall_mem_nil _, .nil⟩
  obtain ⟨hself, hnothing, hassoc, hfold, happly⟩ := merge_laws
  exact ⟨⟨ha, hb, hc, hbridges⟩, hself a (.object b) ha hb, hnothing (.object c) hc,
    hassoc a (.object b) (.object c) ha hb hc hbridges,
    hfold a o.entries ha hentries hpairs (absurd · (List.cons_ne_nil _ _)), happly o f hentries⟩

end MapStyle.Overrides
