import Mathlib.Data.List.Induction
import MapStyle.Proofs.Json.Compact
import MapStyle.Proofs.Store

/-!
# The store as a replay of its calls

What the store holds for the data of a layer is told by the calls that were made for it, in their
order. Each range has a list of features of its own, which a fetch of the range replaces, a write
extends and a deletion thins out, and the lists stand in the order in which their ranges first
appeared. That two ranges never meet in one bucket rests on the texts that name them: the three
numbers can be read back from the text, and the absent range has the empty one.
-/

namespace MapStyle

/-! ## Keys of ranges -/

namespace Range

/-- A number is told from the text behind it by the colon between them. -/
theorem number_append_inj {m n : ℤ} {r s : List Char}
    (h : (toString m).toList ++ ':' :: r = (toString n).toList ++ ':' :: s) : m = n ∧ r = s := by
  have hnumeric (k : ℤ) : ∀ c ∈ (toString k).toList, Json.isNumeric c = true :=
    fun _ hc ↦ (Json.isNumeric_of_mem_intText hc).1
  have hcolon : Json.isNumeric ':' = false := by decide
  obtain ⟨hnumber, hrest⟩ := Json.append_inj_of_isNumeric (hnumeric m) (hnumeric n)
    (Json.endsNumber_cons hcolon r) (Json.endsNumber_cons hcolon s) h
  exact ⟨Int.repr_injective (String.toList_inj.mp hnumber), (List.cons.inj hrest).2⟩

theorem toList_key_some (r : Range) :
    (key (some r)).toList =
      (toString r.x).toList ++ ':' :: ((toString r.y).toList ++ ':' :: (toString r.z).toList) := by
  simp [key]

/-- Different ranges have different keys. -/
theorem key_injective : Function.Injective key := by
  have hsome (r : Range) : key (some r) ≠ key none := by
    intro h
    have htext := toList_key_some r
    rw [h] at htext
    simp [key] at htext
  intro r s h
  cases r with
  | none =>
    cases s with
    | none => rfl
    | some s => exact absurd h.symm (hsome s)
  | some r =>
    cases s with
    | none => exact absurd h (hsome r)
    | some s =>
      have htext : (key (some r)).toList = (key (some s)).toList := congrArg String.toList h
      rw [toList_key_some, toList_key_some] at htext
      obtain ⟨hx, htext⟩ := number_append_inj htext
      obtain ⟨hy, htext⟩ := number_append_inj htext
      have hz : r.z = s.z := Int.repr_injective (String.toList_inj.mp htext)
      obtain ⟨x, y, z⟩ := r
      obtain ⟨x', y', z'⟩ := s
      cases hx
      cases hy
      cases hz
      rfl

end Range

/-! ## Buckets as lists by range -/

/-- An element that is appended to a list is new, or it has appeared before. -/
theorem eraseDups_concat {α : Type} [BEq α] [LawfulBEq α] (l : List α) (a : α) :
    (l ++ [a]).eraseDups = if a ∈ l then l.eraseDups else l.eraseDups ++ [a] := by
  rw [List.eraseDups_append]
  by_cases h : a ∈ l <;> simp [List.removeAll, h, List.eraseDups_cons]

/-- By induction from the end, as an element is kept only where it is new. -/
theorem nodup_eraseDups {α : Type} [BEq α] [LawfulBEq α] (l : List α) : l.eraseDups.Nodup := by
  induction l using List.reverseRecOn with
  | nil => simp
  | append_singleton l a ih =>
    rw [eraseDups_concat]
    split
    · exact ih
    · rename_i h
      rw [List.nodup_append]
      refine ⟨ih, by simp, fun b hb c hc ↦ ?_⟩
      rw [List.mem_singleton.mp hc]
      rintro rfl
      exact h (List.mem_eraseDups.mp hb)

namespace Buckets

/-- The buckets of ranges, in the order in which the ranges first appear in a list. -/
def layout (ranges : List (Option Range)) (contents : Option Range → List Feature) : Buckets :=
  ranges.eraseDups.map fun r ↦ (Range.key r, contents r)

variable {ranges : List (Option Range)} {contents : Option Range → List Feature}

/-- A change of the bucket of a range, among buckets of distinct ranges. -/
theorem update_map_key {l : List (Option Range)} (hl : l.Nodup) (range : Option Range)
    (f : List Feature → List Feature) :
    update (Range.key range) f (l.map fun r ↦ (Range.key r, contents r))
      = if range ∈ l then
          l.map fun r ↦ (Range.key r, Function.update contents range (f (contents range)) r)
        else (l.map fun r ↦ (Range.key r, contents r)) ++ [(Range.key range, f [])] := by
  induction l with
  | nil => rfl
  | cons r rest ih =>
    obtain ⟨hr, hrest⟩ := List.nodup_cons.mp hl
    rw [List.map_cons, update]
    by_cases h : r = range
    · subst h
      have hsame : ∀ s ∈ rest, Function.update contents r (f (contents r)) s = contents s :=
        fun s hs ↦ Function.update_of_ne (by rintro rfl; exact hr hs) _ _
      simp +contextual [hsame]
    · rw [if_neg (Range.key_injective.ne h), ih hrest]
      by_cases hmem : range ∈ rest
      · simp [hmem, Function.update_of_ne h]
      · simp [hmem, Ne.symm h]

/-- A change of the bucket of a range makes the range appear, if it has not appeared before. -/
theorem update_layout (hcontents : ∀ r ∉ ranges, contents r = []) (range : Option Range)
    (f : List Feature → List Feature) :
    (layout ranges contents).update (Range.key range) f
      = layout (ranges ++ [range])
          (Function.update contents range (f (contents range))) := by
  rw [layout, update_map_key (nodup_eraseDups ranges), layout, eraseDups_concat]
  simp only [List.mem_eraseDups]
  by_cases h : range ∈ ranges
  · rw [if_pos h, if_pos h]
  · rw [if_neg h, if_neg h, List.map_append, hcontents range h]
    have hsame : ∀ r ∈ ranges.eraseDups, Function.update contents range (f []) r = contents r := by
      intro r hr
      refine Function.update_of_ne ?_ _ _
      rintro rfl
      exact h (List.mem_eraseDups.mp hr)
    simp +contextual [hsame]

/-- Features that are appended go to the end of the lists of their own ranges. -/
theorem foldl_append_layout (hcontents : ∀ r ∉ ranges, contents r = [])
    (features : List Feature) :
    features.foldl append (layout ranges contents)
      = layout (ranges ++ features.map Feature.range)
          fun r ↦ contents r ++ features.filter fun f ↦ f.range = r := by
  induction features generalizing ranges contents with
  | nil => simp
  | cons f rest ih =>
    rw [List.foldl_cons, append, update_layout hcontents, ih]
    · congr 1
      · simp
      · funext r
        by_cases h : r = f.range
        · subst h
          simp
        · simp [Function.update_of_ne h, Ne.symm h]
    · intro r hr
      have hr : r ∉ ranges ∧ r ≠ f.range := by simpa using hr
      rw [Function.update_of_ne hr.2, hcontents r hr.1]

theorem delete_layout (ids : List String) :
    (layout ranges contents).delete ids
      = layout ranges fun r ↦ (contents r).filter fun f ↦ !ids.contains f.id := by
  simp [layout, delete]

end Buckets

/-! ## Calls -/

namespace Store

/-- A call that may change the store. That of a fetch comes with the answer which the fetch gets. -/
inductive Call where
  | fetch (layer : String) (data : DataSource) (range : Option Range)
    (answer : Except Fault (List Feature))
  | write (layer : String) (data : DataSource) (features : List Feature)
  | delete (layer : String) (data : DataSource) (ids : List String)

namespace Call

/-- The part of the store that a call is made for. -/
def key : Call → StoreKey
  | fetch layer data _ _ => keyOf layer data
  | write layer data _ => keyOf layer data
  | delete layer data _ => keyOf layer data

/-- Whether something is kept for the data after a call, be it no feature at all. -/
def opens : Call → Bool
  | fetch _ _ _ (.ok _) => true
  | write _ _ _ => true
  | _ => false

/-- The ranges that a call brings a list of features for. -/
def ranges : Call → List (Option Range)
  | fetch _ _ range (.ok _) => [range]
  | write _ _ features => features.map Feature.range
  | _ => []

/-- The features that a call brings for a range. -/
def given (range : Option Range) : Call → List Feature
  | fetch _ _ r (.ok features) => if r = range then features else []
  | write _ _ features => features.filter fun f ↦ f.range = range
  | _ => []

/-- What a call makes of the list of a range: a fetch of the range replaces it, a write extends it,
and a deletion thins it out. -/
def replay (range : Option Range) (kept : List Feature) : Call → List Feature
  | fetch _ _ r (.ok features) => if r = range then features else kept
  | fetch _ _ _ (.error _) => kept
  | write _ _ features => kept ++ features.filter fun f ↦ f.range = range
  | delete _ _ ids => kept.filter fun f ↦ !ids.contains f.id

/-- What a call makes of the part of the store that it is made for. -/
def changePart : Call → Option Buckets → Option Buckets
  | fetch _ _ range (.ok features), b => some ((b.getD []).replace (Range.key range) features)
  | fetch _ _ _ (.error _), b => b
  | write _ _ features, b => some (features.foldl Buckets.append (b.getD []))
  | delete _ _ ids, b => b.map (Buckets.delete · ids)

end Call

def call (s : Store) : Call → Store
  | .fetch layer data range answer =>
    (Source.fetch (m := Id) (fun _ _ ↦ answer) s layer data range).2
  | .write layer data features => s.write layer data features
  | .delete layer data ids => s.delete layer data ids

def run (s : Store) (calls : List Call) : Store := calls.foldl call s

def contents (calls : List Call) (range : Option Range) : List Feature :=
  calls.foldl (Call.replay range) []

/-- The part of the store that several calls for it leave. -/
def partOf (calls : List Call) : Option Buckets :=
  if calls.any Call.opens then
    some (Buckets.layout (calls.flatMap Call.ranges) (contents calls))
  else none

theorem contents_concat (calls : List Call) (c : Call) (range : Option Range) :
    contents (calls ++ [c]) range = c.replay range (contents calls range) := by
  simp [contents]

/-- A range that has not appeared has no features. -/
theorem contents_eq_nil {calls : List Call} {range : Option Range}
    (h : range ∉ calls.flatMap Call.ranges) : contents calls range = [] := by
  induction calls using List.reverseRecOn with
  | nil => rfl
  | append_singleton calls c ih =>
    rw [List.flatMap_append, List.mem_append, not_or] at h
    rw [contents_concat, ih h.1]
    have hc : range ∉ c.ranges := by simpa using h.2
    cases c with
    | fetch layer data r answer =>
      cases answer with
      | error fault => rfl
      | ok features =>
        have hne : r ≠ range := fun heq ↦ hc (by simp [Call.ranges, heq])
        simp [Call.replay, hne]
    | write layer data features => simpa [Call.replay, Call.ranges] using hc
    | delete layer data ids => rfl

/-- Where nothing is kept, no range has appeared. -/
theorem ranges_eq_nil {calls : List Call} (h : calls.any Call.opens = false) :
    calls.flatMap Call.ranges = [] := by
  rw [List.flatMap_eq_nil_iff]
  intro c hc
  have hopens : c.opens = false := by simpa using (List.any_eq_false.mp h) c hc
  cases c with
  | fetch layer data r answer =>
    cases answer with
    | error fault => rfl
    | ok features => cases hopens
  | write layer data features => cases hopens
  | delete layer data ids => rfl

theorem getD_partOf (calls : List Call) :
    (partOf calls).getD [] = Buckets.layout (calls.flatMap Call.ranges) (contents calls) := by
  rw [partOf]
  split
  · rfl
  · rename_i h
    rw [ranges_eq_nil (by simpa using h)]
    rfl

/-- One more call. -/
theorem changePart_partOf (calls : List Call) (c : Call) :
    c.changePart (partOf calls) = partOf (calls ++ [c]) := by
  have hcontents : contents (calls ++ [c]) = fun r ↦ c.replay r (contents calls r) :=
    funext (contents_concat calls c)
  have hnil : ∀ r ∉ calls.flatMap Call.ranges, contents calls r = [] :=
    fun _ ↦ contents_eq_nil
  cases c with
  | fetch layer data range answer =>
    cases answer with
    | error fault =>
      rw [Call.changePart, partOf, partOf, hcontents]
      simp [Call.opens, Call.ranges, Call.replay]
    | ok features =>
      rw [Call.changePart, getD_partOf, Buckets.replace, Buckets.update_layout hnil, partOf,
        hcontents]
      have hreplay : Function.update (contents calls) range features
          = fun r ↦ if range = r then features else contents calls r := by
        funext r
        by_cases h : range = r
        · subst h
          simp
        · simp [Function.update_of_ne (Ne.symm h), h]
      simp [Call.opens, Call.ranges, Call.replay, hreplay]
  | write layer data features =>
    rw [Call.changePart, getD_partOf, Buckets.foldl_append_layout hnil, partOf, hcontents]
    simp [Call.opens, Call.ranges, Call.replay]
  | delete layer data ids =>
    rw [Call.changePart, partOf, partOf, hcontents]
    have hany : (calls ++ [Call.delete layer data ids]).any Call.opens = calls.any Call.opens := by
      simp [Call.opens]
    rw [hany]
    split
    · rw [Option.map_some, Buckets.delete_layout]
      simp [Call.ranges, Call.replay]
    · rfl

/-- A call changes the part that it is made for and no other. -/
theorem part?_call (s : Store) (c : Call) (key : StoreKey) :
    (s.call c).part? key = if key = c.key then c.changePart (s.part? key) else s.part? key := by
  cases c with
  | fetch layer data range answer =>
    cases answer with
    | error fault => exact (ite_self _).symm
    | ok features =>
      refine (s.part?_put layer data key range features).trans ?_
      by_cases hkey : key = keyOf layer data <;> simp [hkey, Call.key, Call.changePart]
  | write layer data features =>
    refine (s.part?_write layer data key features).trans ?_
    by_cases hkey : key = keyOf layer data <;> simp [hkey, Call.key, Call.changePart]
  | delete layer data ids =>
    refine (s.part?_delete layer data key ids).trans ?_
    by_cases hkey : key = keyOf layer data <;> simp [hkey, Call.key, Call.changePart]

/-- A part of the store is told by the calls that were made for it. -/
theorem part?_run (calls : List Call) (key : StoreKey) :
    (run {} calls).part? key = partOf (calls.filter fun c ↦ c.key = key) := by
  induction calls using List.reverseRecOn with
  | nil => rfl
  | append_singleton calls c ih =>
    have hrun : run {} (calls ++ [c]) = (run {} calls).call c := by simp [run]
    rw [hrun, part?_call, ih, List.filter_append]
    by_cases hkey : key = c.key
    · rw [if_pos hkey, changePart_partOf]
      simp [hkey]
    · rw [if_neg hkey]
      simp [Ne.symm hkey]

example :
    let data : DataSource := { format := "geojson", url := some "a" }
    let tile : Range := { x := 0, y := -1, z := 2 }
    let s := run {} [.write "L" data [{ id := "a" }, { id := "b", range := some tile }],
      .fetch "L" data none (.ok [{ id := "c" }]), .delete "L" data ["b"]]
    (s.getAll? "L" data).map (·.map Feature.id) = some ["c"] ∧
      (s.get? "L" data (some tile)).map (·.map Feature.id) = some [] := by
  decide

end Store

end MapStyle
