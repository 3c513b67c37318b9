import MapStyle.Proofs.Expr.Written
import MapStyle.Proofs.Path.Selection
import MapStyle.Proofs.Path.Spelling
import MapStyle.Proofs.Placeholder.Bodies

/-!
# Names with points and paths of names

A placeholder of names with points between them, and a placeholder of the path with these names as
its steps, read the same value. Both lead from the properties down from name to name, through the
members of objects and the items of arrays. Where the names lead nowhere the path is a fault, and
the name is `undefined`.
-/

namespace MapStyle

open Text Reader

/-! ## Characters of names -/

/-- The code points of the blanks. -/
def blankCodes : List ℕ :=
  [0x09, 0x0A, 0x0B, 0x0C, 0x0D, 0x20, 0x85, 0xA0, 0x1680, 0x2000, 0x2001, 0x2002, 0x2003, 0x2004,
    0x2005, 0x2006, 0x2007, 0x2008, 0x2009, 0x200A, 0x2028, 0x2029, 0x202F, 0x205F, 0x3000]

theorem toNat_mem_blankCodes {c : Char} (h : isBlank c = true) : c.toNat ∈ blankCodes := by
  simp only [isBlank, Bool.or_eq_true, Bool.and_eq_true, decide_eq_true_eq] at h
  simp only [blankCodes, List.mem_cons, List.not_mem_nil, or_false]
  omega

theorem Path.not_isBlank_of_isBareName {c : Char} (h : Path.isBareName c = true) :
    isBlank c = false := by
  have hnone : ∀ n ∈ blankCodes, Path.isBareName (Char.ofNat n) = false := by decide +kernel
  by_contra hblank
  have hc := hnone _ (toNat_mem_blankCodes (Bool.not_eq_false _ ▸ hblank))
  rw [Char.ofNat_toNat, h] at hc
  contradiction

/-! ## Names one after the other -/

variable {names : List String} {name : String} {v w : Json}

/-- The names with points between them. -/
def dotted (names : List String) : String := ".".intercalate names

theorem toList_dotted (names : List String) :
    (dotted names).toList = ['.'].intercalate (names.map String.toList) := String.toList_intercalate

/-- Every character of the names, and the point, is of a class. -/
theorem forall_mem_dotted {p : Char → Prop} (hpoint : p '.')
    (h : ∀ name ∈ names, ∀ c ∈ name.toList, p c) : ∀ c ∈ (dotted names).toList, p c := by
  rw [toList_dotted]
  induction names with
  | nil => simp
  | cons name names ih =>
    have hnames := ih fun other hother ↦ h other (by simp [hother])
    cases names with
    | nil => simpa using h
    | cons next names =>
      rw [List.map_cons, List.map_cons, List.intercalate_cons_cons]
      intro c hc
      simp only [List.mem_append, List.mem_singleton] at hc
      rcases hc with (hc | rfl) | hc
      · exact h name (by simp) c hc
      · exact hpoint
      · exact hnames c hc

/-- The text begins as the first name does. -/
theorem head?_dotted (h : ∀ name ∈ names, name.toList ≠ []) :
    (dotted names).toList.head? = names.head?.bind fun name ↦ name.toList.head? := by
  rw [toList_dotted]
  match names with
  | [] => rfl
  | [name] => simp
  | name :: next :: names =>
    obtain ⟨c, cs, hname⟩ := List.exists_cons_of_ne_nil (h name (by simp))
    simp [List.intercalate_cons_cons, hname]

/-- A point in front of each name is one in front of all and one between each two. -/
theorem flatten_map_cons_point (hne : names ≠ []) :
    (names.map fun name ↦ '.' :: name.toList).flatten = '.' :: (dotted names).toList := by
  rw [toList_dotted]
  induction names with
  | nil => contradiction
  | cons name names ih =>
    cases names with
    | nil => simp
    | cons next names =>
      rw [List.map_cons, List.flatten_cons, ih (by simp)]
      simp [List.intercalate_cons_cons]

namespace Scope

theorem parts_dotted (hne : names ≠ []) (h : ∀ name ∈ names, '.' ∉ name.toList) :
    parts (dotted names) = names := by
  have hsplit : (dotted names).toList.splitOnP (· == '.') = names.map String.toList := by
    rw [← List.splitOn_eq_splitOnP, toList_dotted]
    exact List.splitOn_intercalate '.' (by simpa using h) (by simpa using hne)
  rw [parts, hsplit, List.map_map]
  simp [Function.comp_def]

/-- The names are followed one by one, and a value without the name ends the walk. -/
theorem walk_cons (v : Json) (name : String) (names : List String) :
    walk v (name :: names) = (v.child? name).bind fun w ↦ walk w names := by
  rw [walk, List.foldl_cons, Option.bind_some]
  cases v.child? name with
  | some w => rfl
  | none =>
    induction names with
    | nil => rfl
    | cons name names ih => exact ih

/-- Names with points lead where the names lead one after the other. -/
theorem dotted?_dotted (hlength : 2 ≤ names.length) (h : ∀ name ∈ names, '.' ∉ name.toList)
    (scope : Scope) :
    scope.dotted? (dotted names) = walk (.object scope.properties) names := by
  match names, hlength with
  | head :: next :: rest, _ =>
    rw [dotted?, parts_dotted (by simp) h, walk_cons]
    rfl

end Scope

/-! ## Paths of names -/

namespace Path

/-- The path of names selects what the names lead to. -/
theorem foldl_select_child (v : Json) (names : List String) :
    (names.map Segment.child).foldl (fun values s ↦ values.flatMap s.select) [v]
      = (Scope.walk v names).toList := by
  induction names generalizing v with
  | nil => rfl
  | cons name names ih =>
    rw [List.map_cons, List.foldl_cons, List.flatMap_singleton, Scope.walk_cons, Segment.select]
    cases v.child? name with
    | some w => exact ih w
    | none =>
      rw [foldl_select_eq_flatMap]
      rfl

theorem child?_eq_some_iff : v.child? name = some w ↔
    ∃ piece, (Segment.child name).Takes v piece ∧ v.at? piece = some w := by
  rw [← Lists.mem_iff (lists_child name v), Option.mem_toList]

/-- Names lead from a value where the segments of their path lead. -/
theorem walk_eq_some_iff :
    Scope.walk v names = some w ↔ ∃ pieces, Leads (names.map Segment.child) v pieces w := by
  induction names generalizing v with
  | nil =>
    constructor
    · rintro ⟨⟩
      exact ⟨[], .nil _⟩
    · rintro ⟨_, ⟨⟩⟩
      rfl
  | cons name names ih =>
    rw [Scope.walk_cons, Option.bind_eq_some_iff]
    simp only [child?_eq_some_iff, ih]
    constructor
    · rintro ⟨u, ⟨piece, htakes, hu⟩, pieces, hrest⟩
      exact ⟨piece :: pieces, .cons htakes hu hrest⟩
    · rintro ⟨_, hleads⟩
      cases hleads with
      | cons htakes hu hrest => exact ⟨_, ⟨_, htakes, hu⟩, _, hrest⟩

/-- The path with names as its steps. -/
def ofNames (names : List String) : Path where
  source := "$." ++ dotted names
  segments := names.map .child

theorem selectOne_ofNames (names : List String) (v : Json) :
    (ofNames names).selectOne v = match Scope.walk v names with
      | some w => .ok w
      | none => .error (.nothing (ofNames names).source) := by
  have hselect : (ofNames names).select v = (Scope.walk v names).toList :=
    foldl_select_child v names
  rw [selectOne, hselect]
  cases Scope.walk v names <;> rfl

theorem toList_source_ofNames (names : List String) :
    (ofNames names).source.toList = '$' :: '.' :: (dotted names).toList := by
  simp [ofNames]

theorem trim_dotted (h : ∀ name ∈ names, IsBareName name.toList) :
    trim (dotted names).toList = (dotted names).toList :=
  Placeholder.trim_of_forall_not_isBlank <| forall_mem_dotted rfl fun name hname c hc ↦
    not_isBlank_of_isBareName ((h name hname).2 c hc)

theorem trim_ofNames (h : ∀ name ∈ names, IsBareName name.toList) :
    trim (ofNames names).source.toList = (ofNames names).source.toList := by
  have hnames : ∀ c ∈ (dotted names).toList, isBlank c = false :=
    forall_mem_dotted rfl fun name hname c hc ↦ not_isBlank_of_isBareName ((h name hname).2 c hc)
  refine Placeholder.trim_of_forall_not_isBlank ?_
  rw [toList_source_ofNames]
  simpa [isBlank] using hnames

/-- A path of bare names is written with points and parsed as it was. -/
theorem parse_ofNames (hne : names ≠ []) (h : ∀ name ∈ names, IsBareName name.toList) :
    parse (ofNames names).source = .ok (ofNames names) := by
  have hspelled : SpelledBy (ofNames names).source.toList (ofNames names).segments := by
    refine ⟨names.map fun name ↦ '.' :: name.toList, ?_, by
      rw [flatten_map_cons_point hne, toList_source_ofNames]⟩
    rw [ofNames, List.forall₂_map_left_iff, List.forall₂_map_right_iff, List.forall₂_same]
    intro name hname
    simpa using Spells.child (h name hname)
  rw [parse, trim_ofNames h, whole_eq_some.mpr (steps_eq_ok_iff.mpr hspelled)]

end Path

/-! ## Placeholders of names -/

namespace Expr

theorem parse?_placeholder {body : String} {e : Expr} (hbody : ∀ c ∈ body.toList, c ≠ '}')
    (h : Parser.placeholderOf? body.toList = some e) :
    parse? ("$\x7b" ++ body ++ "\x7d") = some e := by
  refine parse?_of_phrase ?_
  have htext : ("$\x7b" ++ body ++ "\x7d").toList = '$' :: '{' :: (body.toList ++ ['}']) := by
    simp
  rw [htext]
  exact (Phrase.placeholder hbody h).operand_of_primary.at .free

theorem eval_path_ofNames (scope : Scope) (names : List String) :
    eval scope (.path (.ofNames names))
      = match Scope.walk (.object scope.properties) names with
        | some w => .ok (.ofJson w)
        | none => .error (.path (.nothing (Path.ofNames names).source)) := by
  rw [eval, evalAt, Path.selectOne_ofNames]
  cases Scope.walk (.object scope.properties) names <;> rfl

/-- A name with points that no property has as a whole stands for what its parts lead to. -/
theorem resolve_dotted (hlength : 2 ≤ names.length) (h : ∀ name ∈ names, '.' ∉ name.toList)
    {scope : Scope} (habsent : Table.get? scope.properties (dotted names) = none) :
    scope.resolve (dotted names)
      = ((Scope.walk (.object scope.properties) names).map .ofJson).getD .undefined := by
  have hid : dotted names ≠ "id" := by
    intro hid
    have hparts := Scope.parts_dotted (by rintro rfl; simp at hlength) h
    rw [hid] at hparts
    have hone : Scope.parts "id" = ["id"] := rfl
    rw [hone] at hparts
    rw [← hparts] at hlength
    simp at hlength
  rw [Scope.resolve, habsent, Scope.identifier?, if_neg hid, Scope.dotted?_dotted hlength h]

/-- Names with points between them and the path of the names are both placeholders. In every scope
without a property of the whole name, the name has the value of the path, and is `undefined` where
the path is a fault. The path has a value where its steps lead through objects and arrays to one. -/
theorem eval_dotted (hlength : 2 ≤ names.length)
    (hnames : ∀ name ∈ names, Path.IsBareName name.toList)
    (hhead : ∀ name ∈ names.head?, name.toList.head? ≠ some '$') :
    ∃ name path, parse? ("$\x7b" ++ dotted names ++ "\x7d") = some name ∧
      parse? ("$\x7b$." ++ dotted names ++ "\x7d") = some path ∧
      ∀ scope : Scope, Table.get? scope.properties (dotted names) = none →
        (∀ v, eval scope path = .ok v → eval scope name = .ok v) ∧
        (∀ fault, eval scope path = .error fault → eval scope name = .ok .undefined) ∧
        ∀ v, eval scope path = .ok v ↔ ∃ w, v = .ofJson w ∧
          ∃ pieces, Path.Leads (names.map .child) (.object scope.properties) pieces w := by
  have hpoint : ∀ name ∈ names, '.' ∉ name.toList := fun name hname hmem ↦ by
    have hbare := (hnames name hname).2 '.' hmem
    contradiction
  have hne : names ≠ [] := by
    rintro rfl
    simp at hlength
  have hbrace : ∀ c ∈ (dotted names).toList, c ≠ '}' := by
    refine forall_mem_dotted (by decide) fun name hname c hc ↦ ?_
    rintro rfl
    have hbare := (hnames name hname).2 '}' hc
    contradiction
  have hname : Parser.placeholderOf? (dotted names).toList
      = some (.placeholder (dotted names)) := by
    have hdollar : (trim (dotted names).toList).head? ≠ some '$' := by
      rw [Path.trim_dotted hnames, head?_dotted fun name hname ↦ (hnames name hname).1]
      intro h
      obtain ⟨name, hfirst, hdollar⟩ := Option.bind_eq_some_iff.mp h
      exact hhead name hfirst hdollar
    rw [placeholderOf?_of_head hdollar, Path.trim_dotted hnames, String.ofList_toList]
  have hpath : Parser.placeholderOf? (Path.ofNames names).source.toList
      = some (.path (Path.ofNames names)) := by
    refine placeholderOf?_of_parse ?_
    rw [Path.trim_ofNames hnames, String.ofList_toList]
    exact Path.parse_ofNames hne hnames
  refine ⟨.placeholder (dotted names), .path (.ofNames names), parse?_placeholder hbrace hname, ?_,
    fun scope habsent ↦ ?_⟩
  · have hsource : "$\x7b$." ++ dotted names ++ "\x7d"
        = "$\x7b" ++ (Path.ofNames names).source ++ "\x7d" :=
      String.toList_injective (by simp [Path.ofNames])
    rw [hsource]
    refine parse?_placeholder ?_ hpath
    simpa [Path.toList_source_ofNames] using hbrace
  · rw [eval_path_ofNames, eval, evalAt, resolve_dotted hlength hpoint habsent]
    simp only [← Path.walk_eq_some_iff]
    cases Scope.walk (.object scope.properties) names with
    | some w => simp [eq_comm]
    | none => simp

/-- The second item of an array below a property has a member; a name for its third item leads
nowhere. -/
theorem eval_dotted_item :
    let properties : Table Json := [("a", .array [.null, .object [("b-c", .string "x")]])]
    let scope : Scope := ⟨some "layer", properties⟩
    let names := ["a", "1", "b-c"]
    let past := ["a", "2", "b-c"]
    (∃ name path, parse? ("$\x7b" ++ dotted names ++ "\x7d") = some name ∧
      parse? ("$\x7b$." ++ dotted names ++ "\x7d") = some path ∧
      eval scope path = .ok (.string "x") ∧ eval scope name = .ok (.string "x")) ∧
    ∃ name path, parse? ("$\x7b" ++ dotted past ++ "\x7d") = some name ∧
      parse? ("$\x7b$." ++ dotted past ++ "\x7d") = some path ∧
      ∃ fault, eval scope path = .error fault ∧ eval scope name = .ok .undefined := by
  intro properties scope names past
  have hnames : ∀ name ∈ names, Path.IsBareName name.toList := by decide +kernel
  have hpast : ∀ name ∈ past, Path.IsBareName name.toList := by decide +kernel
  constructor
  · obtain ⟨name, path, hname, hpath, hvalue⟩ := eval_dotted (by decide) hnames (by decide)
    have hok : eval scope path = .ok (.string "x") := by
      refine ((hvalue scope rfl).2.2 _).mpr ⟨.string "x", rfl, ?_⟩
      exact Path.walk_eq_some_iff.mp rfl
    exact ⟨name, path, hname, hpath, hok, (hvalue scope rfl).1 _ hok⟩
  · obtain ⟨name, path, hname, hpath, hvalue⟩ := eval_dotted (by decide) hpast (by decide)
    refine ⟨name, path, hname, hpath, ?_⟩
    cases heval : eval scope path with
    | error fault => exact ⟨fault, rfl, (hvalue scope rfl).2.1 fault heval⟩
    | ok v =>
      obtain ⟨w, -, hleads⟩ := ((hvalue scope rfl).2.2 v).mp heval
      have hnowhere : Scope.walk (.object scope.properties) past = none := rfl
      rw [Path.walk_eq_some_iff.mpr hleads] at hnowhere
      contradiction

end Expr

end MapStyle
