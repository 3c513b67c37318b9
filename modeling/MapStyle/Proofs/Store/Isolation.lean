import MapStyle.Proofs.Store.Replay

/-!
# Handles apart from each other

A call for the data of one layer cannot be noticed by what the store answers for another handle, as
long as the two are kept under different keys. A layer is told by its identifier. Of the data the
key holds the format and the address with two colons between them, and each of the two may itself
hold colons: the same text can be cut into a format and an address in several ways. An absent
address counts as the empty one. Where neither happens, and only there, handles are apart.
-/

namespace MapStyle

/-! ## Sources of data under one key -/

namespace DataSource

/-- The address as it stands in the key. -/
def address (d : DataSource) : String := d.url.getD ""

/-- The key of the first source is cut at a later place in the second one, whose format takes over
the colons in between, and what stands before the colons that are left. -/
inductive Shifted (d e : DataSource) : Prop where
  /-- The cut moves by a single colon. -/
  | colon (format : e.format = d.format ++ ":") (address : d.address = ":" ++ e.address)
  /-- The cut moves to two other colons. -/
  | colons (between : String) (format : e.format = d.format ++ ("::" ++ between))
    (address : d.address = between ++ ("::" ++ e.address))

/-- The store does not tell two sources of data apart. -/
def Alike (d e : DataSource) : Prop :=
  (d.format = e.format ∧ d.address = e.address) ∨ d.Shifted e ∨ e.Shifted d

variable {d e : DataSource}

theorem toList_key (d : DataSource) :
    d.key.toList = d.format.toList ++ ':' :: ':' :: d.address.toList := by
  simp [key, address]

theorem Shifted.key_eq (h : d.Shifted e) : d.key = e.key := by
  rw [← String.toList_inj, toList_key, toList_key]
  cases h with
  | colon format address => simp [format, address]
  | colons between format address => simp [format, address]

/-- Two colons that are cut behind a text begin the text, unless it is empty. -/
theorem colons_eq_append {text r s : List Char}
    (h : ':' :: ':' :: r = text ++ ':' :: ':' :: s) :
    (text = [] ∧ r = s) ∨ (text = [':'] ∧ r = ':' :: s) ∨
      ∃ between, text = ':' :: ':' :: between ∧ r = between ++ ':' :: ':' :: s := by
  match text with
  | [] => exact .inl ⟨rfl, by simpa using h⟩
  | [c] =>
    obtain ⟨rfl, hr⟩ : ':' = c ∧ ':' :: r = ':' :: ':' :: s := by simpa using h
    exact .inr (.inl ⟨rfl, (List.cons.inj hr).2⟩)
  | c :: c' :: between =>
    obtain ⟨rfl, rfl, hr⟩ : ':' = c ∧ ':' = c' ∧ r = between ++ ':' :: ':' :: s := by simpa using h
    exact .inr (.inr ⟨between, rfl, hr⟩)

/-- A longer format under the same key. -/
theorem alike_of_append {text : List Char} (hformat : e.format.toList = d.format.toList ++ text)
    (h : ':' :: ':' :: d.address.toList = text ++ ':' :: ':' :: e.address.toList) :
    (d.format = e.format ∧ d.address = e.address) ∨ d.Shifted e := by
  rcases colons_eq_append h with ⟨rfl, haddress⟩ | ⟨rfl, haddress⟩ | ⟨between, rfl, haddress⟩
  · refine .inl ⟨String.toList_inj.mp ?_, String.toList_inj.mp haddress⟩
    rw [hformat, List.append_nil]
  · refine .inr (.colon (String.toList_inj.mp ?_) (String.toList_inj.mp ?_))
    · simp [hformat]
    · simp [haddress]
  · refine .inr (.colons (String.ofList between) (String.toList_inj.mp ?_)
      (String.toList_inj.mp ?_))
    · simp [hformat]
    · simp [haddress]

/-- Sources of data have one key exactly if they are alike. -/
theorem key_eq_iff_alike : d.key = e.key ↔ d.Alike e := by
  constructor
  · intro h
    rw [← String.toList_inj, toList_key, toList_key] at h
    rcases List.append_eq_append_iff.mp h with ⟨text, hformat, hrest⟩ | ⟨text, hformat, hrest⟩
    · exact (alike_of_append hformat hrest).imp_right .inl
    · exact (alike_of_append hformat hrest).imp (fun heq ↦ ⟨heq.1.symm, heq.2.symm⟩) .inr
  · rintro (⟨hformat, haddress⟩ | h | h)
    · rw [← String.toList_inj, toList_key, toList_key, hformat, haddress]
    · exact h.key_eq
    · exact h.key_eq.symm

/-- Among formats without a colon, sources are alike only if format and address agree. -/
theorem alike_iff_of_colonless (hd : ':' ∉ d.format.toList) (he : ':' ∉ e.format.toList) :
    d.Alike e ↔ d.format = e.format ∧ d.address = e.address := by
  have hnot {a b : DataSource} (hb : ':' ∉ b.format.toList) : ¬ a.Shifted b := by
    rintro (⟨format, -⟩ | ⟨between, format, -⟩) <;> simp [format] at hb
  simp [Alike, hnot hd, hnot he]

end DataSource

/-! ## Calls for one handle -/

namespace Store

/-- The layer and the data that a call is made for. -/
def Call.handle : Call → String × DataSource
  | .fetch layer data _ _ => (layer, data)
  | .write layer data _ => (layer, data)
  | .delete layer data _ => (layer, data)

theorem Call.key_eq (c : Call) : c.key = keyOf c.handle.1 c.handle.2 := by cases c <;> rfl

/-- The store answers alike for a handle, by range and for all ranges together. -/
def SameFor (layer : String) (data : DataSource) (s t : Store) : Prop :=
  (∀ range, s.get? layer data range = t.get? layer data range) ∧
    s.getAll? layer data = t.getAll? layer data

/-- Calls for one handle never change the answers for another. -/
def Isolated (layer : String) (data : DataSource) (layer' : String) (data' : DataSource) : Prop :=
  ∀ calls c, c.handle = (layer, data) → SameFor layer' data' ((run {} calls).call c) (run {} calls)

/-- A call changes nothing for handles with another key, whatever the store holds. -/
theorem sameFor_call {layer : String} {data : DataSource} (s : Store) {c : Call}
    (h : keyOf layer data ≠ c.key) : SameFor layer data (s.call c) s := by
  have hpart : (s.call c).part? (keyOf layer data) = s.part? (keyOf layer data) := by
    rw [part?_call, if_neg h]
  exact ⟨fun range ↦ by rw [get?, hpart, get?], by rw [getAll?, hpart, getAll?]⟩

/-- Calls for a handle are kept from another handle exactly if the two are for different layers, or
for data that the store tells apart. -/
theorem isolated_iff (layer : String) (data : DataSource) (layer' : String) (data' : DataSource) :
    Isolated layer data layer' data' ↔ ¬ (layer = layer' ∧ data.Alike data') := by
  rw [← DataSource.key_eq_iff_alike]
  constructor
  · rintro h ⟨rfl, hkey⟩
    -- The first write for data makes the store answer for it, if with no feature.
    have hsame := (h [] (.write layer data []) rfl).2
    have hkeyOf : keyOf layer data' = keyOf layer data := by rw [keyOf, keyOf, hkey]
    rw [getAll?, part?_call, Call.key, if_pos hkeyOf] at hsame
    cases hsame
  · intro hne calls c hc
    apply sameFor_call
    rw [c.key_eq, hc]
    intro hkey
    exact hne ⟨(Prod.mk.inj hkey).1.symm, (Prod.mk.inj hkey).2.symm⟩

/-- Features fetched for an address with two colons are answered for another format and address. -/
theorem joined_not_isolated :
    let data : DataSource := { format := "geojson", url := some "a::b" }
    let data' : DataSource := { format := "geojson::a", url := some "b" }
    let s := run {} []
    data.format ≠ data'.format ∧ data.url ≠ data'.url ∧
      (s.getAll? "L" data').map (·.map Feature.id) = none ∧
      ((s.call (.fetch "L" data none (.ok [{ id := "a" }]))).getAll? "L" data').map
        (·.map Feature.id) = some ["a"] := by
  decide

end Store

end MapStyle
