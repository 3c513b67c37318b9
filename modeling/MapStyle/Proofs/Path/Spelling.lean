import MapStyle.Path.Parser
import MapStyle.Proofs.Text.Reader

/-!
# The spelling of paths

A text is read as a path exactly if it is a dollar sign followed by a spelling of each segment. A
segment may be spelled in several ways, but a text spells one list of segments at most: a name goes
on as far as it can, a number behind a colon is missing only if none stands there, and what one
alternative of the reader has read cannot be read otherwise by a later one.
-/

namespace MapStyle.Path

open Text Reader

/-! ## Spellings -/

/-- The integers of 64 bits with a sign. -/
def InRange (n : Int) : Prop := Binary64.minInt64 ≤ n ∧ n ≤ Binary64.maxInt64

instance : DecidablePred InRange := fun _ ↦ inferInstanceAs (Decidable (_ ∧ _))

/-- An integer: decimal digits, at least one, after an optional minus, of a value in range. -/
inductive SpellsInteger : List Char → Int → Prop where
  | plain {ds : List Char} (hdigits : ∀ c ∈ ds, c.isDigit = true) (hne : ds ≠ [])
    (hrange : InRange (Decimal.ofDigits ds)) : SpellsInteger ds (Decimal.ofDigits ds)
  | negative {ds : List Char} (hdigits : ∀ c ∈ ds, c.isDigit = true) (hne : ds ≠ [])
    (hrange : InRange (-Decimal.ofDigits ds)) : SpellsInteger ('-' :: ds) (-Decimal.ofDigits ds)

/-- An integer, or nothing if there is none. -/
def SpellsOptional (text : List Char) : Option Int → Prop
  | none => text = []
  | some n => SpellsInteger text n

/-- What stands between brackets. A second colon may stand in a range without a number behind it. -/
inductive SpellsSelector : List Char → Segment → Prop where
  | wildcard : SpellsSelector ['*'] .wildcard
  | quoted {quote : Char} {text : List Char} (hquote : quote = '\'' ∨ quote = '"')
    (htext : quote ∉ text) :
    SpellsSelector (quote :: (text ++ [quote])) (.child (String.ofList text))
  | index {text : List Char} {n : Int} (h : SpellsInteger text n) : SpellsSelector text (.index n)
  | slice {first last : List Char} {start stop : Option Int} (hstart : SpellsOptional first start)
    (hstop : SpellsOptional last stop) :
    SpellsSelector (first ++ ':' :: last) (.slice start stop none)
  | stepped {first last between : List Char} {start stop step : Option Int}
    (hstart : SpellsOptional first start) (hstop : SpellsOptional last stop)
    (hstep : SpellsOptional between step) :
    SpellsSelector (first ++ ':' :: (last ++ ':' :: between)) (.slice start stop step)

/-- A name without quotes. -/
def IsBareName (name : List Char) : Prop := name ≠ [] ∧ ∀ c ∈ name, isBareName c = true

-- As for names, how the quantifier is decided has to be said.
instance : DecidablePred IsBareName := fun name ↦
  @instDecidableAnd (name ≠ []) _ inferInstance (List.decidableBAll _ name)

/-- One segment. A point in front of a bracket, and blanks inside it, make no difference. -/
inductive Spells : List Char → Segment → Prop where
  | child {name : List Char} (hname : IsBareName name) :
    Spells ('.' :: name) (.child (String.ofList name))
  | wildcard : Spells ['.', '*'] .wildcard
  | descendant {name : List Char} (hname : IsBareName name) :
    Spells ('.' :: '.' :: name) (.descendant (String.ofList name))
  | bracket {point before after text : List Char} {s : Segment}
    (hpoint : point = [] ∨ point = ['.']) (hbefore : Blanks before) (hafter : Blanks after)
    (h : SpellsSelector text s) :
    Spells (point ++ '[' :: (before ++ (text ++ (after ++ [']'])))) s

/-- A dollar sign and then a spelling of each segment. -/
def SpelledBy (text : List Char) (segments : List Segment) : Prop :=
  ∃ spellings, List.Forall₂ Spells spellings segments ∧ text = '$' :: spellings.flatten

variable {s t chars rest : List Char} {n : ℤ} {n? : Option ℤ} {step : Segment}

/-! ## Numbers -/

/-- The characters that an integer begins with. -/
def opensInteger (c : Char) : Bool := c.isDigit || c == '-'

theorem SpellsInteger.head (h : SpellsInteger t n) :
    ∃ c u, t = c :: u ∧ opensInteger c = true := by
  cases h with
  | plain hdigits hne hrange =>
    obtain ⟨c, u, rfl⟩ := List.exists_cons_of_ne_nil hne
    exact ⟨c, u, rfl, by simp [opensInteger, hdigits c List.mem_cons_self]⟩
  | negative => exact ⟨'-', _, rfl, rfl⟩

theorem stops_isDigit_of_opensInteger (h : Stops opensInteger rest) : Stops Char.isDigit rest :=
  h.mono fun c hc ↦ by simp [opensInteger, hc]

/-- An integer that does not fit fails, and one that fits is taken as it is. -/
theorem checked_eq_ok {m : ℤ} : (if InRange m then yield m else fail : Reader ℤ) s = .ok n rest ↔
    InRange m ∧ n = m ∧ rest = s := by
  constructor
  · intro h
    split at h
    · cases h
      exact ⟨‹_›, rfl, rfl⟩
    · contradiction
  · rintro ⟨hrange, rfl, rfl⟩
    rw [if_pos hrange]
    rfl

/-- An integer is read up to the last of its digits. -/
theorem integer_append (h : SpellsInteger t n) (hrest : Stops Char.isDigit rest) :
    integer (t ++ rest) = .ok n rest := by
  cases h with
  | @plain ds hdigits hne hrange =>
    have hsign : optional (char '-') (t ++ rest) = .ok none (t ++ rest) := by
      -- A run of digits does not begin with a minus.
      refine optional_of_miss (char_miss ?_)
      obtain ⟨c, cs, rfl⟩ := List.exists_cons_of_ne_nil hne
      rintro ⟨⟩
      exact absurd (hdigits '-' List.mem_cons_self) (by decide)
    have hread : Reader.digits (t ++ rest) = .ok t rest := run1_append hdigits hne hrest
    rw [integer, bind_of_ok hsign, bind_of_ok hread]
    exact checked_eq_ok.mpr ⟨hrange, rfl, rfl⟩
  | @negative ds hdigits hne hrange =>
    have hread : Reader.digits (ds ++ rest) = .ok ds rest := run1_append hdigits hne hrest
    rw [integer, List.cons_append, bind_of_ok (optional_of_ok (char_cons '-' _)), bind_of_ok hread]
    exact checked_eq_ok.mpr ⟨hrange, rfl, rfl⟩

/-- What is read as an integer spells it. -/
theorem spells_of_integer (h : integer s = .ok n rest) :
    ∃ t, s = t ++ rest ∧ SpellsInteger t n := by
  obtain ⟨sign, s₁, hsign, h⟩ := bind_eq_ok.mp h
  obtain ⟨ds, s₂, hds, hvalue⟩ := bind_eq_ok.mp h
  obtain ⟨rfl, hdigits, hne, -⟩ := run1_eq_ok hds
  obtain ⟨hrange, rfl, rfl⟩ := checked_eq_ok.mp hvalue
  rcases optional_eq_ok hsign with ⟨c, rfl, hc⟩ | ⟨rfl, rfl, -⟩
  · exact ⟨'-' :: ds, char_eq_ok hc, .negative hdigits hne hrange⟩
  · exact ⟨ds, rfl, .plain hdigits hne hrange⟩

theorem integer_miss (h : Stops opensInteger s) : integer s = .miss := by
  have hsign : optional (char '-') s = .ok none s := by
    refine optional_of_miss (char_miss fun hhead ↦ ?_)
    exact absurd (h '-' hhead) (by decide)
  rw [integer, bind_of_ok hsign]
  exact bind_of_miss (run1_miss (stops_isDigit_of_opensInteger h))

theorem optional_integer_append (h : SpellsOptional t n?) (hrest : Stops opensInteger rest) :
    optional integer (t ++ rest) = .ok n? rest := by
  cases n? with
  | none =>
    cases (h : t = [])
    exact optional_of_miss (integer_miss hrest)
  | some n => exact optional_of_ok (integer_append h (stops_isDigit_of_opensInteger hrest))

theorem spells_of_optional_integer (h : optional integer s = .ok n? rest) :
    ∃ t, s = t ++ rest ∧ SpellsOptional t n? := by
  rcases optional_eq_ok h with ⟨n, rfl, hn⟩ | ⟨rfl, rfl, -⟩
  · exact spells_of_integer hn
  · exact ⟨[], rfl, rfl⟩

/-! ## Between brackets -/

theorem quotedBy_append {quote : Char} (h : quote ∉ chars) (rest : List Char) :
    quotedBy quote (quote :: (chars ++ quote :: rest)) = .ok (String.ofList chars) rest := by
  have hrun : run (· != quote) (chars ++ quote :: rest) = .ok chars (quote :: rest) := by
    refine run_append (fun c hc ↦ ?_) (by simp [Stops])
    simpa using ne_of_mem_of_not_mem hc h
  rw [quotedBy, bind_of_ok (char_cons quote _), bind_of_ok hrun, bind_of_ok (char_cons quote _)]
  rfl

theorem quotedBy_miss {quote : Char} (h : s.head? ≠ some quote) : quotedBy quote s = .miss :=
  bind_of_miss (char_miss h)

theorem quoted_of_quotedBy {quote : Char} {word : String} (h : quotedBy quote s = .ok word rest) :
    ∃ chars, s = quote :: (chars ++ quote :: rest) ∧ quote ∉ chars ∧
      word = String.ofList chars := by
  obtain ⟨c, s₁, hopening, h⟩ := bind_eq_ok.mp h
  obtain ⟨chars, s₂, hrun, h⟩ := bind_eq_ok.mp h
  obtain ⟨c', s₃, hclosing, hyield⟩ := bind_eq_ok.mp h
  cases hyield
  obtain ⟨rfl, hchars, -⟩ := run_eq_ok hrun
  rw [char_eq_ok hopening, char_eq_ok hclosing]
  exact ⟨chars, rfl, fun hmem ↦ by simpa using hchars quote hmem, rfl⟩

/-- The characters that a range begins with, and goes on with. -/
def isRangePart (c : Char) : Bool := opensInteger c || c == ':'

theorem stops_opensInteger (h : Stops isRangePart rest) : Stops opensInteger rest :=
  h.mono fun c hc ↦ by simp [isRangePart, hc]

theorem head?_ne_colon (h : Stops isRangePart rest) : rest.head? ≠ some ':' := fun hhead ↦
  absurd (h ':' hhead) (by decide)

theorem stops_colon (rest : List Char) : Stops opensInteger (':' :: rest) := by
  rintro c ⟨⟩
  rfl

/-- A range without a step ends where no further colon stands. -/
theorem range_slice_append {first last : List Char} {start stop : Option ℤ}
    (hstart : SpellsOptional first start) (hstop : SpellsOptional last stop)
    (hrest : Stops isRangePart rest) :
    range (first ++ ':' :: (last ++ rest)) = .ok (.slice start stop none) rest := by
  rw [range, bind_of_ok (optional_integer_append hstart (stops_colon _)),
    bind_of_ok (char_cons ':' _),
    bind_of_ok (optional_integer_append hstop (stops_opensInteger hrest)),
    bind_of_ok (optional_of_miss (bind_of_miss (char_miss (head?_ne_colon hrest))))]
  rfl

/-- Behind a second colon a range may go on with a step. -/
theorem range_stepped_append {first last between : List Char} {start stop step : Option ℤ}
    (hstart : SpellsOptional first start) (hstop : SpellsOptional last stop)
    (hstep : SpellsOptional between step) (hrest : Stops isRangePart rest) :
    range (first ++ ':' :: (last ++ ':' :: (between ++ rest))) =
      .ok (.slice start stop step) rest := by
  have hread : (char ':' >>= fun _ ↦ optional integer) (':' :: (between ++ rest)) =
      .ok step rest := by
    rw [bind_of_ok (char_cons ':' _)]
    exact optional_integer_append hstep (stops_opensInteger hrest)
  rw [range, bind_of_ok (optional_integer_append hstart (stops_colon _)),
    bind_of_ok (char_cons ':' _), bind_of_ok (optional_integer_append hstop (stops_colon _)),
    bind_of_ok (optional_of_ok hread)]
  rfl

/-- An integer that no colon follows is no range. -/
theorem range_miss (h : integer s = .ok n rest) (hrest : rest.head? ≠ some ':') :
    range s = .miss := by
  rw [range, bind_of_ok (optional_of_ok h)]
  exact bind_of_miss (char_miss hrest)

/-- What is read as a range spells an index or a slice. -/
theorem spells_of_range (h : range s = .ok step rest) :
    ∃ t, s = t ++ rest ∧ SpellsSelector t step := by
  obtain ⟨start, s₁, hstart, h⟩ := bind_eq_ok.mp h
  obtain ⟨c, s₂, hcolon, h⟩ := bind_eq_ok.mp h
  obtain ⟨stop, s₃, hstop, h⟩ := bind_eq_ok.mp h
  obtain ⟨step?, s₄, hstep, hyield⟩ := bind_eq_ok.mp h
  cases hyield
  obtain ⟨first, rfl, hfirst⟩ := spells_of_optional_integer hstart
  rw [char_eq_ok hcolon]
  obtain ⟨last, rfl, hlast⟩ := spells_of_optional_integer hstop
  rcases optional_eq_ok hstep with ⟨step, rfl, hread⟩ | ⟨rfl, rfl, -⟩
  · obtain ⟨c', s₅, hsecond, hstep⟩ := bind_eq_ok.mp hread
    obtain ⟨between, rfl, hbetween⟩ := spells_of_optional_integer hstep
    rw [char_eq_ok hsecond]
    exact ⟨_, by simp, .stepped hfirst hlast hbetween⟩
  · exact ⟨_, by simp, .slice hfirst hlast⟩

/-- The text begins like a range or an index. -/
def OpensRange (s : List Char) : Prop := ∃ c u, s = c :: u ∧ isRangePart c = true

theorem OpensRange.append (h : OpensRange t) (rest : List Char) : OpensRange (t ++ rest) := by
  obtain ⟨c, u, rfl, hc⟩ := h
  exact ⟨c, u ++ rest, rfl, hc⟩

theorem SpellsInteger.opensRange (h : SpellsInteger t n) : OpensRange t := by
  obtain ⟨c, u, rfl, hc⟩ := h.head
  exact ⟨c, u, rfl, by simp [isRangePart, hc]⟩

theorem SpellsOptional.opensRange (h : SpellsOptional t n?) (rest : List Char) :
    OpensRange (t ++ ':' :: rest) := by
  cases n? with
  | none =>
    cases (h : t = [])
    exact ⟨':', rest, rfl, rfl⟩
  | some n => exact (SpellsInteger.opensRange h).append _

/-- The first character tells ranges and indices from the other selectors. -/
theorem OpensRange.selector_eq (h : OpensRange s) :
    selector s = choice [range, do let i ← integer; yield (.index i)] s := by
  obtain ⟨c, u, rfl, hc⟩ := h
  have hmiss (d : Char) (hd : isRangePart d = false) : (c :: u).head? ≠ some d := by
    rintro ⟨⟩
    rw [hc] at hd
    contradiction
  rw [selector, choice_of_miss (bind_of_miss (char_miss (hmiss '*' rfl))),
    choice_of_miss (bind_of_miss (quotedBy_miss (hmiss '\'' rfl))),
    choice_of_miss (bind_of_miss (quotedBy_miss (hmiss '"' rfl)))]

/-- Every selector is read where nothing goes on with it. -/
theorem selector_append (h : SpellsSelector t step) (hrest : Stops isRangePart rest) :
    selector (t ++ rest) = .ok step rest := by
  cases h with
  | wildcard =>
    rw [selector]
    exact choice_of_ok (bind_of_ok (char_cons '*' rest))
  | @quoted quote chars hquote hchars =>
    have hread := quotedBy_append hchars rest
    simp only [List.cons_append, List.append_assoc, List.nil_append]
    rcases hquote with rfl | rfl
    · rw [selector, choice_of_miss (bind_of_miss (char_miss (by simp)))]
      exact choice_of_ok (bind_of_ok hread)
    · rw [selector, choice_of_miss (bind_of_miss (char_miss (by simp))),
        choice_of_miss (bind_of_miss (quotedBy_miss (by simp)))]
      exact choice_of_ok (bind_of_ok hread)
  | index h =>
    have hread := integer_append h (stops_isDigit_of_opensInteger (stops_opensInteger hrest))
    rw [(h.opensRange.append rest).selector_eq,
      choice_of_miss (range_miss hread (head?_ne_colon hrest))]
    exact choice_of_ok (bind_of_ok hread)
  | slice hstart hstop =>
    rw [((hstart.opensRange _).append rest).selector_eq, List.append_assoc, List.cons_append]
    exact choice_of_ok (range_slice_append hstart hstop hrest)
  | stepped hstart hstop hstep =>
    rw [((hstart.opensRange _).append rest).selector_eq, List.append_assoc, List.cons_append,
      List.append_assoc, List.cons_append]
    exact choice_of_ok (range_stepped_append hstart hstop hstep hrest)

/-- What is read between brackets spells a selector. -/
theorem spells_of_selector (h : selector s = .ok step rest) :
    ∃ t, s = t ++ rest ∧ SpellsSelector t step := by
  obtain ⟨p, hp, hread⟩ := choice_eq_ok h
  simp only [List.mem_cons, List.not_mem_nil, or_false] at hp
  rcases hp with rfl | rfl | rfl | rfl | rfl
  · obtain ⟨c, s₁, hstar, hyield⟩ := bind_eq_ok.mp hread
    cases hyield
    exact ⟨['*'], char_eq_ok hstar, .wildcard⟩
  · obtain ⟨word, s₁, hquoted, hyield⟩ := bind_eq_ok.mp hread
    cases hyield
    obtain ⟨chars, rfl, hchars, rfl⟩ := quoted_of_quotedBy hquoted
    exact ⟨_, by simp, .quoted (.inl rfl) hchars⟩
  · obtain ⟨word, s₁, hquoted, hyield⟩ := bind_eq_ok.mp hread
    cases hyield
    obtain ⟨chars, rfl, hchars, rfl⟩ := quoted_of_quotedBy hquoted
    exact ⟨_, by simp, .quoted (.inr rfl) hchars⟩
  · exact spells_of_range hread
  · obtain ⟨i, s₁, hi, hyield⟩ := bind_eq_ok.mp hread
    cases hyield
    obtain ⟨t, rfl, ht⟩ := spells_of_integer hi
    exact ⟨t, rfl, .index ht⟩

theorem not_isTokenBlank_of_isRangePart {c : Char} (h : isRangePart c = true) :
    isTokenBlank c = false := by
  by_contra hblank
  simp only [isTokenBlank, Bool.not_eq_false, Bool.or_eq_true, decide_eq_true_eq] at hblank
  rcases hblank with ((rfl | rfl) | rfl) | rfl <;> contradiction

theorem OpensRange.head (h : OpensRange t) : ∃ c u, t = c :: u ∧ isTokenBlank c = false := by
  obtain ⟨c, u, rfl, hc⟩ := h
  exact ⟨c, u, rfl, not_isTokenBlank_of_isRangePart hc⟩

/-- A selector does not begin with a blank. -/
theorem SpellsSelector.head (h : SpellsSelector t step) :
    ∃ c u, t = c :: u ∧ isTokenBlank c = false := by
  cases h with
  | wildcard => exact ⟨'*', [], rfl, rfl⟩
  | quoted hquote hchars =>
    refine ⟨_, _, rfl, ?_⟩
    rcases hquote with rfl | rfl <;> rfl
  | index h => exact h.opensRange.head
  | slice hstart hstop => exact (hstart.opensRange _).head
  | stepped hstart hstop hstep => exact (hstart.opensRange _).head

/-! ## Brackets -/

theorem stops_isRangePart {after : List Char} (hafter : Blanks after) (rest : List Char) :
    Stops isRangePart (after ++ ']' :: rest) := by
  cases after with
  | nil =>
    rintro c ⟨⟩
    rfl
  | cons blank after =>
    rintro c ⟨⟩
    by_contra hpart
    have hblank := not_isTokenBlank_of_isRangePart (by simpa using hpart)
    rw [hafter _ List.mem_cons_self] at hblank
    contradiction

/-- Blanks may stand on either side of a selector. -/
theorem bracket_append {before after : List Char} (hbefore : Blanks before) (hafter : Blanks after)
    (h : SpellsSelector t step) (rest : List Char) :
    bracket ('[' :: (before ++ (t ++ (after ++ ']' :: rest)))) = .ok step rest := by
  have hread : token selector (before ++ (t ++ (after ++ ']' :: rest))) =
      .ok step (']' :: rest) := by
    obtain ⟨c, u, rfl, hc⟩ := h.head
    have hselector := selector_append h (stops_isRangePart hafter rest)
    rw [token_eq, hbefore.dropWhile_append, List.cons_append, dropWhile_blank_cons hc,
      ← List.cons_append, hselector, Reply.settle, hafter.dropWhile_append,
      dropWhile_blank_cons rfl]
  rw [bracket, bind_of_ok (char_cons '[' _), bind_of_ok hread, bind_of_ok (char_cons ']' _)]
  rfl

theorem bracket_miss (h : s.head? ≠ some '[') : bracket s = .miss := bind_of_miss (char_miss h)

/-- What is read in brackets is a selector between blanks. -/
theorem spells_of_bracket (h : bracket s = .ok step rest) :
    ∃ before t after, Blanks before ∧ Blanks after ∧ SpellsSelector t step ∧
      s = '[' :: (before ++ (t ++ (after ++ ']' :: rest))) := by
  obtain ⟨c, s₁, hopening, h⟩ := bind_eq_ok.mp h
  obtain ⟨step', s₂, htoken, h⟩ := bind_eq_ok.mp h
  obtain ⟨c', s₃, hclosing, hyield⟩ := bind_eq_ok.mp h
  cases hyield
  obtain ⟨after, hafter, hselector⟩ := token_eq_ok htoken
  obtain ⟨t, ht, hspells⟩ := spells_of_selector hselector
  refine ⟨s₁.takeWhile isTokenBlank, t, after, blanks_takeWhile s₁, hafter, hspells, ?_⟩
  rw [char_eq_ok hopening, ← char_eq_ok hclosing, ← ht, List.takeWhile_append_dropWhile]

/-! ## Segments -/

theorem bareName_append {name : List Char} (h : IsBareName name) (hrest : Stops isBareName rest) :
    bareName (name ++ rest) = .ok (String.ofList name) rest := by
  rw [bareName, bind_of_ok (run1_append h.2 h.1 hrest)]
  rfl

theorem isBareName_of_bareName {word : String} (h : bareName s = .ok word rest) :
    ∃ name, s = name ++ rest ∧ IsBareName name ∧ word = String.ofList name := by
  obtain ⟨name, s₁, hrun, hyield⟩ := bind_eq_ok.mp h
  cases hyield
  obtain ⟨rfl, hname, hne, -⟩ := run1_eq_ok hrun
  exact ⟨name, rfl, ⟨hne, hname⟩, rfl⟩

/-- A name begins neither with a point nor with a star nor with a bracket. -/
theorem IsBareName.head?_ne {name : List Char} (h : IsBareName name) {c : Char}
    (hc : isBareName c = false) (rest : List Char) : (name ++ rest).head? ≠ some c := by
  obtain ⟨d, cs, rfl⟩ := List.exists_cons_of_ne_nil h.1
  rintro ⟨⟩
  rw [h.2 c List.mem_cons_self] at hc
  contradiction

/-- Behind a point, what does not go on with the second character is not the pair. -/
theorem text_pair_miss {c d : Char} (h : s.head? ≠ some d) : text [c, d] (c :: s) = .miss := by
  rw [text, if_pos rfl]
  exact text_miss (by simp) h

/-- Every segment is read where no name goes on. -/
theorem segment_append (h : Spells t step) (hrest : Stops isBareName rest) :
    segment (t ++ rest) = .ok step rest := by
  -- The character behind the point decides between the alternatives that begin with one.
  cases h with
  | @child name hname =>
    have hhead {c : Char} (hc : isBareName c = false) : (name ++ rest).head? ≠ some c :=
      hname.head?_ne hc rest
    have hbracket : (char '.' >>= fun _ ↦ bracket) ('.' :: (name ++ rest)) = .miss :=
      (bind_of_ok (char_cons '.' _)).trans (bracket_miss (hhead (by decide)))
    rw [List.cons_append, segment,
      choice_of_miss (bind_of_miss (text_pair_miss (hhead (by decide)))), choice_of_miss hbracket,
      choice_of_miss (bind_of_miss (text_pair_miss (hhead (by decide))))]
    refine choice_of_ok ((bind_of_ok (char_cons '.' _)).trans ?_)
    exact bind_of_ok (bareName_append hname hrest)
  | wildcard =>
    have hbracket : (char '.' >>= fun _ ↦ bracket) ('.' :: '*' :: rest) = .miss :=
      (bind_of_ok (char_cons '.' _)).trans (bracket_miss (by simp))
    rw [List.cons_append, List.cons_append, List.nil_append, segment,
      choice_of_miss (bind_of_miss (text_pair_miss (by simp))), choice_of_miss hbracket]
    exact choice_of_ok (bind_of_ok (text_append ['.', '*'] rest))
  | descendant hname =>
    refine choice_of_ok ((bind_of_ok (text_append ['.', '.'] _)).trans ?_)
    exact bind_of_ok (bareName_append hname hrest)
  | @bracket point before after inner step hpoint hbefore hafter h =>
    have hread := bracket_append hbefore hafter h rest
    simp only [List.append_assoc, List.cons_append, List.nil_append]
    rcases hpoint with rfl | rfl
    · have htext (d : Char) (s : List Char) : Reader.text ['.', d] ('[' :: s) = .miss :=
        text_miss (by simp) (by simp)
      have hpoint (s : List Char) : char '.' ('[' :: s) = .miss := char_miss (by simp)
      rw [List.nil_append, segment, choice_of_miss (bind_of_miss (htext '.' _)),
        choice_of_miss (bind_of_miss (hpoint _)), choice_of_miss (bind_of_miss (htext '*' _)),
        choice_of_miss (bind_of_miss (hpoint _))]
      exact choice_of_ok hread
    · rw [List.cons_append, List.nil_append, segment,
        choice_of_miss (bind_of_miss (text_pair_miss (by simp)))]
      exact choice_of_ok ((bind_of_ok (char_cons '.' _)).trans hread)

/-- What is read as a segment spells it. -/
theorem spells_of_segment (h : segment s = .ok step rest) :
    ∃ t, s = t ++ rest ∧ Spells t step := by
  obtain ⟨p, hp, hread⟩ := choice_eq_ok h
  simp only [List.mem_cons, List.not_mem_nil, or_false] at hp
  rcases hp with rfl | rfl | rfl | rfl | rfl
  · obtain ⟨_, s₁, hpoints, h⟩ := bind_eq_ok.mp hread
    obtain ⟨word, s₂, hword, hyield⟩ := bind_eq_ok.mp h
    cases hyield
    obtain ⟨name, rfl, hname, rfl⟩ := isBareName_of_bareName hword
    rw [text_eq_ok hpoints]
    exact ⟨'.' :: '.' :: name, rfl, .descendant hname⟩
  · obtain ⟨c, s₁, hpoint, h⟩ := bind_eq_ok.mp hread
    obtain ⟨before, t, after, hbefore, hafter, ht, rfl⟩ := spells_of_bracket h
    rw [char_eq_ok hpoint]
    exact ⟨_, by simp, .bracket (.inr rfl) hbefore hafter ht⟩
  · obtain ⟨_, s₁, hstar, hyield⟩ := bind_eq_ok.mp hread
    cases hyield
    exact ⟨_, text_eq_ok hstar, .wildcard⟩
  · obtain ⟨c, s₁, hpoint, h⟩ := bind_eq_ok.mp hread
    obtain ⟨word, s₂, hword, hyield⟩ := bind_eq_ok.mp h
    cases hyield
    obtain ⟨name, rfl, hname, rfl⟩ := isBareName_of_bareName hword
    exact ⟨_, char_eq_ok hpoint, .child hname⟩
  · obtain ⟨before, t, after, hbefore, hafter, ht, rfl⟩ := spells_of_bracket hread
    exact ⟨_, by simp, .bracket (.inl rfl) hbefore hafter ht⟩

theorem Spells.head (h : Spells t step) : ∃ c u, t = c :: u ∧ isBareName c = false := by
  cases h with
  | bracket hpoint =>
    rcases hpoint with rfl | rfl
    · exact ⟨'[', _, rfl, by decide⟩
    · exact ⟨'.', _, rfl, by decide⟩
  | _ => exact ⟨'.', _, rfl, by decide⟩

/-! ## Paths -/

theorem stops_isBareName {spellings : List (List Char)} {path : List Segment}
    (h : List.Forall₂ Spells spellings path) : Stops isBareName spellings.flatten := by
  cases h with
  | nil => simp [Stops]
  | cons hstep hpath =>
    obtain ⟨c, u, rfl, hc⟩ := hstep.head
    rintro d ⟨⟩
    exact hc

/-- By induction over the spellings, each segment begins with a character that no name has. -/
theorem many_segment_flatten {spellings : List (List Char)} {path : List Segment}
    (h : List.Forall₂ Spells spellings path) :
    many segment spellings.flatten = .ok path [] := by
  induction h with
  | nil => exact many_of_miss rfl
  | @cons t step spellings path hstep hpath ih =>
    have hread := segment_append hstep (stops_isBareName hpath)
    have hshorter : spellings.flatten.length < (t ++ spellings.flatten).length := by
      obtain ⟨c, u, rfl, -⟩ := hstep.head
      rw [List.length_append, List.length_cons]
      omega
    rw [List.flatten_cons, many_of_ok hread hshorter, ih]
    rfl

/-- By induction over the segments that were read, their spellings stand one after another. -/
theorem spelled_of_many {path : List Segment} (h : many segment s = .ok path rest) :
    ∃ spellings, List.Forall₂ Spells spellings path ∧ s = spellings.flatten ++ rest := by
  induction path generalizing s with
  | nil =>
    rcases many_eq_ok h with ⟨-, rfl, -⟩ | ⟨_, _, _, hpath, -⟩
    · exact ⟨[], .nil, rfl⟩
    · contradiction
  | cons step path ih =>
    rcases many_eq_ok h with ⟨hnil, -, -⟩ | ⟨_, _, s', hpath, hstep, -, hmany⟩
    · contradiction
    · cases hpath
      obtain ⟨t, rfl, ht⟩ := spells_of_segment hstep
      obtain ⟨spellings, hspellings, rfl⟩ := ih hmany
      exact ⟨t :: spellings, .cons ht hspellings, by simp⟩

/-- The whole path is read exactly if it is spelled, by the two directions for its segments. -/
theorem steps_eq_ok_iff {path : List Segment} : steps s = .ok path [] ↔ SpelledBy s path := by
  constructor
  · intro h
    obtain ⟨c, s₁, hdollar, hmany⟩ := bind_eq_ok.mp h
    obtain ⟨spellings, hspellings, rfl⟩ := spelled_of_many hmany
    exact ⟨spellings, hspellings, by simpa using char_eq_ok hdollar⟩
  · rintro ⟨spellings, hspellings, rfl⟩
    rw [steps, bind_of_ok (char_cons '$' _)]
    exact many_segment_flatten hspellings

/-- The parser reads exactly the spelled paths. Each of them spells one list of segments, and every
other text is reported as it was given. -/
theorem parse_spelled (source : String) :
    (∀ path, parse source = .ok path ↔
      path.source = source ∧ SpelledBy (trim source.toList) path.segments) ∧
    (parse source = .error (.unreadable source) ↔
      ∀ segments, ¬ SpelledBy (trim source.toList) segments) ∧
    ∀ segments others, SpelledBy (trim source.toList) segments →
      SpelledBy (trim source.toList) others → segments = others := by
  have hwhole (segments : List Segment) :
      whole steps (trim source.toList) = some segments ↔ SpelledBy (trim source.toList) segments :=
    whole_eq_some.trans steps_eq_ok_iff
  refine ⟨fun path ↦ ?_, ?_, fun segments others hsegments hothers ↦ ?_⟩
  · rw [← hwhole, parse]
    cases hread : whole steps (trim source.toList) with
    | none => simp
    | some segments =>
      obtain ⟨source', segments'⟩ := path
      simp [eq_comm]
  · simp only [← hwhole, parse]
    cases hread : whole steps (trim source.toList) with
    | none => simp
    | some segments => simp
  · rw [← hwhole] at hsegments hothers
    exact Option.some.inj (hsegments.symm.trans hothers)

/-- A path to the last item of every member of a name, with a point and blanks around the number. -/
theorem parse_spelled_lastItems :
    parse " $..a.[ -1 ]" =
        .ok { source := " $..a.[ -1 ]", segments := [.descendant "a", .index (-1)] } ∧
      ∀ others, SpelledBy (trim " $..a.[ -1 ]".toList) others →
        others = [.descendant "a", .index (-1)] := by
  have hname : IsBareName ['a'] := ⟨by simp, List.forall_mem_singleton.mpr (by decide)⟩
  have hnumber : SpellsInteger ['-', '1'] (-1) :=
    .negative (List.forall_mem_singleton.mpr rfl) (by simp) (by decide)
  have hspelled : SpelledBy (trim " $..a.[ -1 ]".toList) [.descendant "a", .index (-1)] := by
    refine ⟨[['.', '.', 'a'], ['.', '[', ' ', '-', '1', ' ', ']']], ?_, by decide⟩
    refine .cons (.descendant hname) (.cons ?_ .nil)
    exact @Spells.bracket ['.'] [' '] [' '] _ _ (.inr rfl) (by decide) (by decide) (.index hnumber)
  obtain ⟨hparse, -, hunique⟩ := parse_spelled " $..a.[ -1 ]"
  exact ⟨(hparse _).mpr ⟨rfl, hspelled⟩, fun others hothers ↦ hunique _ _ hothers hspelled⟩

end MapStyle.Path
