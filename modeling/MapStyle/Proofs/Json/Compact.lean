import Std.Data.String.ToInt
import MapStyle.Proofs.Decimal.Reading

/-!
# Compact texts determine values

Two JSON values with one compact text are equal, whatever order their members stand in. The proof
goes through texts with something behind them: a written value ends where its text says it ends,
except for a number, which ends before the first character that no number is written with.
-/

namespace MapStyle.Json

/-- A text that cannot carry on a number. -/
def EndsNumber (s : List Char) : Prop := ∀ c ∈ s.head?, isNumeric c = false

theorem endsNumber_nil : EndsNumber [] := by simp [EndsNumber]

theorem endsNumber_cons {c : Char} (h : isNumeric c = false) (s : List Char) :
    EndsNumber (c :: s) := by simpa [EndsNumber] using h

/-- A run of characters of numbers ends where the text behind it begins. -/
theorem append_inj_of_isNumeric {t u r s : List Char} (ht : ∀ c ∈ t, isNumeric c = true)
    (hu : ∀ c ∈ u, isNumeric c = true) (hr : EndsNumber r) (hs : EndsNumber s)
    (h : t ++ r = u ++ s) : t = u ∧ r = s := by
  have htake {t r : List Char} (ht : ∀ c ∈ t, isNumeric c = true) (hr : EndsNumber r) :
      (t ++ r).takeWhile isNumeric = t := by
    rw [List.takeWhile_append_of_pos ht]
    cases r with
    | nil => simp
    | cons c r => simp [hr c rfl]
  have htu : t = u := by rw [← htake ht hr, ← htake hu hs, h]
  subst htu
  exact ⟨rfl, List.append_cancel_left h⟩

/-! ## Numbers -/

/-- An integer is written with digits and a sign, and nothing that a float has. -/
theorem isNumeric_of_mem_intText {n : ℤ} {c : Char} (h : c ∈ (toString n).toList) :
    isNumeric c = true ∧ isFloatMark c = false := by
  have hdigits (k : ℕ) (hc : c ∈ Nat.toDigits 10 k) :
      isNumeric c = true ∧ isFloatMark c = false := by
    have hdigit := Nat.isDigit_of_mem_toDigits (by norm_num) (by norm_num) hc
    refine ⟨isNumeric_of_mem_toDigits hc, ?_⟩
    by_contra hmark
    simp only [isFloatMark, Bool.not_eq_false, Bool.or_eq_true, decide_eq_true_eq] at hmark
    rcases hmark with rfl | rfl <;> revert hdigit <;> decide
  rw [Int.toString_eq_repr, Int.repr_eq_if] at h
  split at h
  · rw [Nat.toList_repr] at h
    exact hdigits _ h
  · rw [String.toList_append, Nat.toList_repr] at h
    rcases List.mem_append.mp h with h | h
    · have : c = '-' := by simpa using h
      subst this
      decide
    · exact hdigits _ h

theorem isNumeric_of_mem_floatText {x : Float} {c : Char} (h : c ∈ floatText x) :
    isNumeric c = true := by
  rw [floatText_eq] at h
  split at h
  · rcases List.mem_cons.mp h with rfl | h
    · decide
    · exact isNumeric_of_mem_unsignedText h
  · exact isNumeric_of_mem_unsignedText h

theorem exists_floatMark (x : Float) : ∃ c ∈ floatText x, isFloatMark c = true := by
  obtain ⟨c, hc, hmark⟩ := exists_floatMark_unsignedText (Decimal.shortest .toEven x)
  rw [floatText_eq]
  split
  · exact ⟨c, List.mem_cons_of_mem _ hc, hmark⟩
  · exact ⟨c, hc, hmark⟩

theorem isNumeric_of_mem_text {n : Number} {c : Char} (h : c ∈ n.text) : isNumeric c = true := by
  cases n with
  | int n => exact (isNumeric_of_mem_intText h).1
  | float x => exact isNumeric_of_mem_floatText h

/-- Different numbers are written differently; a double is never written like an integer. -/
theorem Number.text_injective {m n : Number} (h : m.text = n.text) : m = n := by
  have hmarks (k : ℤ) (x : Float) : (toString k).toList ≠ floatText x := by
    intro heq
    obtain ⟨c, hc, hmark⟩ := exists_floatMark x
    rw [← heq] at hc
    exact absurd hmark (by rw [(isNumeric_of_mem_intText hc).2]; decide)
  cases m with
  | int m =>
    cases n with
    | int n =>
      have htext : m.repr = n.repr := String.toList_inj.mp h
      exact congrArg _ (Int.repr_injective htext)
    | float x => exact absurd h (hmarks m x)
  | float x =>
    cases n with
    | int n => exact absurd h.symm (hmarks n x)
    | float y => exact congrArg _ (floatText_injective h)

/-! ## Strings -/

theorem escapeLetter?_injective {c d l : Char} (hc : escapeLetter? c = some l)
    (hd : escapeLetter? d = some l) : c = d := by
  unfold escapeLetter? at hc hd
  split at hc <;> cases hc <;> split at hd <;> simp_all

theorem escapeLetter?_ne_u (c : Char) : escapeLetter? c ≠ some 'u' := by
  unfold escapeLetter?
  split <;> decide

theorem digitChar_injective {m n : ℕ} (hm : m < 16) (hn : n < 16)
    (h : Nat.digitChar m = Nat.digitChar n) : m = n := by
  revert h
  interval_cases m <;> interval_cases n <;> decide

/-- The three forms in which a character is written. -/
theorem escapeChar_cases (c : Char) :
    (∃ l, escapeLetter? c = some l ∧ l ≠ 'u' ∧ escapeChar c = ['\\', l]) ∨
    (c.toNat < 0x20 ∧ escapeChar c = ['\\', 'u', '0', '0', Nat.digitChar (c.toNat / 16),
      Nat.digitChar (c.toNat % 16)]) ∨
    (c ≠ '\\' ∧ c ≠ '"' ∧ escapeChar c = [c]) := by
  unfold escapeChar
  split
  · rename_i l hl
    exact Or.inl ⟨l, hl, fun hu ↦ escapeLetter?_ne_u c (hu ▸ hl), rfl⟩
  · rename_i hnone
    split
    · rename_i hlt
      exact Or.inr (Or.inl ⟨hlt, rfl⟩)
    · refine Or.inr (Or.inr ⟨?_, ?_, rfl⟩)
      · rintro rfl
        cases hnone
      · rintro rfl
        cases hnone

/-- One written character ends where its text says it ends. -/
theorem escapeChar_append_inj {c d : Char} {r s : List Char}
    (h : escapeChar c ++ r = escapeChar d ++ s) : c = d ∧ r = s := by
  rcases escapeChar_cases c with ⟨l, hl, hlu, hc⟩ | ⟨hlt, hc⟩ | ⟨hslash, -, hc⟩ <;>
    rcases escapeChar_cases d with ⟨k, hk, hku, hd⟩ | ⟨hlt', hd⟩ | ⟨hslash', -, hd⟩ <;>
    rw [hc, hd] at h <;> simp only [List.cons_append, List.nil_append, List.cons.injEq] at h
  · obtain ⟨-, rfl, hrest⟩ := h
    exact ⟨escapeLetter?_injective hl hk, hrest⟩
  · exact absurd h.2.1 hlu
  · exact absurd h.1.symm hslash'
  · exact absurd h.2.1.symm hku
  · obtain ⟨-, -, -, -, hhigh, hlow, hrest⟩ := h
    have hdiv := digitChar_injective (by omega) (by omega) hhigh
    have hmod := digitChar_injective (by omega) (by omega) hlow
    refine ⟨Char.toNat_inj.mp ?_, hrest⟩
    omega
  · exact absurd h.1.symm hslash'
  · exact absurd h.1 hslash
  · exact absurd h.1 hslash
  · exact h

theorem escapeChar_ne_quote (c : Char) (r s : List Char) : escapeChar c ++ r ≠ '"' :: s := by
  intro h
  rcases escapeChar_cases c with ⟨l, -, -, hc⟩ | ⟨-, hc⟩ | ⟨-, hquote, hc⟩ <;>
    rw [hc] at h <;> simp only [List.cons_append, List.nil_append, List.cons.injEq] at h
  · exact absurd h.1 (by decide)
  · exact absurd h.1 (by decide)
  · exact hquote h.1

/-- No escape begins with a quote, so the closing quote is found. -/
theorem escaped_append_inj {cs ds : List Char} {r s : List Char}
    (h : cs.flatMap escapeChar ++ '"' :: r = ds.flatMap escapeChar ++ '"' :: s) :
    cs = ds ∧ r = s := by
  induction cs generalizing ds with
  | nil =>
    cases ds with
    | nil => exact ⟨rfl, (List.cons.inj h).2⟩
    | cons d ds =>
      rw [List.flatMap_cons, List.append_assoc] at h
      exact absurd h.symm (escapeChar_ne_quote d _ _)
  | cons c cs ih =>
    cases ds with
    | nil =>
      rw [List.flatMap_cons, List.append_assoc] at h
      exact absurd h (escapeChar_ne_quote c _ _)
    | cons d ds =>
      rw [List.flatMap_cons, List.flatMap_cons, List.append_assoc, List.append_assoc] at h
      obtain ⟨rfl, hrest⟩ := escapeChar_append_inj h
      obtain ⟨rfl, hend⟩ := ih hrest
      exact ⟨rfl, hend⟩

/-- A written string ends where its text says it ends. -/
theorem quote_append_inj {k l : String} {r s : List Char} (h : quote k ++ r = quote l ++ s) :
    k = l ∧ r = s := by
  simp only [quote, List.cons_append, List.append_assoc, List.cons.injEq, true_and,
    List.nil_append] at h
  obtain ⟨htext, hrest⟩ := escaped_append_inj h
  exact ⟨String.toList_inj.mp htext, hrest⟩

/-! ## Values -/

/-- Written items behind the first of them. -/
theorem joinWith_cons (t : List Char) (ts : List (List Char)) :
    joinWith [','] (t :: ts) = t ++ ts.flatMap (',' :: ·) := by
  induction ts generalizing t with
  | nil => simp [joinWith]
  | cons u ts ih =>
    rw [joinWith, ih]
    · simp
    · simp

/-- The kind of the values whose texts begin with a character. -/
def kindOf (c : Char) : ℕ :=
  if c = 'n' then 0 else if c = 't' then 1 else if c = 'f' then 2 else if c = '"' then 3
  else if c = '[' then 4 else if c = '{' then 5 else if isNumeric c then 6 else 7

/-- The kind of a value; the two truth values are kinds of their own. -/
def kind : Json → ℕ
  | null => 0
  | bool true => 1
  | bool false => 2
  | string _ => 3
  | array _ => 4
  | object _ => 5
  | number _ => 6

theorem kindOf_eq_six {c : Char} (h : isNumeric c = true) : kindOf c = 6 := by
  have hne (d : Char) (hd : isNumeric d = false) : c ≠ d := by
    rintro rfl
    rw [h] at hd
    cases hd
  simp [kindOf, h, hne 'n' (by decide), hne 't' (by decide), hne 'f' (by decide),
    hne '"' (by decide), hne '[' (by decide), hne '{' (by decide)]

theorem Number.text_ne_nil (n : Number) : n.text ≠ [] := by
  cases n with
  | int n =>
    simp only [Number.text, Int.toString_eq_repr, ne_eq, String.toList_eq_nil_iff]
    rw [Int.repr_eq_if]
    split <;> simp
  | float x =>
    obtain ⟨c, hc, -⟩ := exists_floatMark x
    exact List.ne_nil_of_mem hc

/-- The first character of a text tells of which kind the value is. -/
theorem exists_compactChars_eq_cons (v : Json) :
    ∃ c t, compactChars v = c :: t ∧ kindOf c = v.kind := by
  cases v with
  | null => exact ⟨'n', "ull".toList, rfl, rfl⟩
  | bool b =>
    cases b with
    | true => exact ⟨'t', "rue".toList, rfl, rfl⟩
    | false => exact ⟨'f', "alse".toList, rfl, rfl⟩
  | number n =>
    obtain ⟨c, t, hct⟩ := List.exists_cons_of_ne_nil n.text_ne_nil
    refine ⟨c, t, by rw [compactChars, hct], kindOf_eq_six (isNumeric_of_mem_text (n := n) ?_)⟩
    simp [hct]
  | string s => exact ⟨'"', _, rfl, rfl⟩
  | array items => exact ⟨'[', _, by rw [compactChars], rfl⟩
  | object members => exact ⟨'{', _, by rw [compactChars], rfl⟩

/-- Texts that agree from the start are texts of values of one kind. -/
theorem kind_eq_of_append {v w : Json} {r s : List Char}
    (h : compactChars v ++ r = compactChars w ++ s) : v.kind = w.kind := by
  obtain ⟨c, t, hv, hc⟩ := exists_compactChars_eq_cons v
  obtain ⟨d, u, hw, hd⟩ := exists_compactChars_eq_cons w
  rw [hv, hw, List.cons_append, List.cons_append] at h
  rw [← hc, ← hd, (List.cons.inj h).1]

/-- Two values of one form; the truth values are equal. -/
inductive SameForm : Json → Json → Prop
  | null : SameForm .null .null
  | bool (b : Bool) : SameForm (.bool b) (.bool b)
  | number (m n : Number) : SameForm (.number m) (.number n)
  | string (k l : String) : SameForm (.string k) (.string l)
  | array (vs ws : List Json) : SameForm (.array vs) (.array ws)
  | object (ms ns : List (String × Json)) : SameForm (.object ms) (.object ns)

theorem sameForm_of_append {v w : Json} {r s : List Char}
    (h : compactChars v ++ r = compactChars w ++ s) : SameForm v w := by
  have hkind := kind_eq_of_append h
  rcases v with _ | (_ | _) | _ | _ | _ | _ <;> rcases w with _ | (_ | _) | _ | _ | _ | _ <;>
    first | constructor | cases hkind

theorem compactChars_ne_cons {c : Char} (h : kindOf c = 7) (v : Json) (r s : List Char) :
    compactChars v ++ r ≠ c :: s := by
  obtain ⟨d, t, hv, hd⟩ := exists_compactChars_eq_cons v
  rw [hv, List.cons_append]
  rintro heq
  have hkind : v.kind = 7 := by rw [← hd, (List.cons.inj heq).1, h]
  unfold kind at hkind
  split at hkind <;> cases hkind

theorem endsNumber_items (vs : List Json) (r : List Char) :
    EndsNumber ((compactItems vs).flatMap (',' :: ·) ++ ']' :: r) := by
  cases vs with
  | nil => exact endsNumber_cons (by decide) _
  | cons v vs => exact endsNumber_cons (by decide) _

theorem endsNumber_members (ms : List (String × Json)) (r : List Char) :
    EndsNumber ((compactMembers ms).flatMap (',' :: ·) ++ '}' :: r) := by
  cases ms with
  | nil => exact endsNumber_cons (by decide) _
  | cons m ms => exact endsNumber_cons (by decide) _

/-- A written value ends where its text says it ends: what begins with the text of another value
that is closed off is that value. -/
def EndsItself (v : Json) : Prop :=
  ∀ {w : Json} {r s : List Char}, EndsNumber r → EndsNumber s →
    compactChars v ++ r = compactChars w ++ s → v = w ∧ r = s

theorem endsItself_null : EndsItself .null := by
  intro w r s _ _ h
  cases sameForm_of_append h
  exact ⟨rfl, List.append_cancel_left h⟩

theorem endsItself_bool (b : Bool) : EndsItself (.bool b) := by
  intro w r s _ _ h
  cases sameForm_of_append h
  exact ⟨rfl, List.append_cancel_left h⟩

theorem endsItself_number (m : Number) : EndsItself (.number m) := by
  intro w r s hr hs h
  cases sameForm_of_append h with
  | number _ n =>
    simp only [compactChars] at h
    obtain ⟨htext, hrest⟩ := append_inj_of_isNumeric (fun c hc ↦ isNumeric_of_mem_text hc)
      (fun c hc ↦ isNumeric_of_mem_text hc) hr hs h
    exact ⟨congrArg _ (Number.text_injective htext), hrest⟩

theorem endsItself_string (k : String) : EndsItself (.string k) := by
  intro w r s _ _ h
  cases sameForm_of_append h with
  | string _ l =>
    simp only [compactChars] at h
    obtain ⟨rfl, hrest⟩ := quote_append_inj h
    exact ⟨rfl, hrest⟩

/-! ### Items -/

theorem compactChars_array_nil (r : List Char) : compactChars (.array []) ++ r = '[' :: ']' :: r :=
  rfl

theorem compactChars_array_cons (v : Json) (vs : List Json) (r : List Char) :
    compactChars (.array (v :: vs)) ++ r
      = '[' :: (compactChars v ++ ((compactItems vs).flatMap (',' :: ·) ++ ']' :: r)) := by
  simp [compactChars, compactItems, joinWith_cons]

/-- Written items behind the first end where their text says they end. -/
theorem compactItems_append_inj {vs ws : List Json} {r s : List Char}
    (hvs : ∀ v ∈ vs, EndsItself v)
    (h : (compactItems vs).flatMap (',' :: ·) ++ ']' :: r
      = (compactItems ws).flatMap (',' :: ·) ++ ']' :: s) : vs = ws ∧ r = s := by
  induction vs generalizing ws with
  | nil =>
    cases ws with
    | nil => exact ⟨rfl, (List.cons.inj h).2⟩
    | cons w ws => exact absurd (List.cons.inj h).1 (by decide)
  | cons v vs ih =>
    obtain ⟨hv, hvs⟩ := List.forall_mem_cons.mp hvs
    cases ws with
    | nil => exact absurd (List.cons.inj h).1 (by decide)
    | cons w ws =>
      simp only [compactItems, List.flatMap_cons, List.cons_append, List.append_assoc,
        List.cons.injEq, true_and] at h
      obtain ⟨rfl, hrest⟩ := hv (endsNumber_items vs r) (endsNumber_items ws s) h
      obtain ⟨rfl, hend⟩ := ih hvs hrest
      exact ⟨rfl, hend⟩

/-- An array ends where its brackets close. -/
theorem endsItself_array {vs : List Json} (hvs : ∀ v ∈ vs, EndsItself v) :
    EndsItself (.array vs) := by
  intro w r s _ _ h
  cases sameForm_of_append h with
  | array _ ws =>
    match vs, ws with
    | [], [] => exact ⟨rfl, List.append_cancel_left h⟩
    | [], w :: ws =>
      rw [compactChars_array_nil, compactChars_array_cons] at h
      exact absurd (List.cons.inj h).2.symm (compactChars_ne_cons (by decide) w _ _)
    | v :: vs, [] =>
      rw [compactChars_array_nil, compactChars_array_cons] at h
      exact absurd (List.cons.inj h).2 (compactChars_ne_cons (by decide) v _ _)
    | v :: vs, w :: ws =>
      obtain ⟨hv, hvs⟩ := List.forall_mem_cons.mp hvs
      rw [compactChars_array_cons, compactChars_array_cons] at h
      obtain ⟨rfl, hrest⟩ := hv (endsNumber_items vs r) (endsNumber_items ws s) (List.cons.inj h).2
      obtain ⟨rfl, hend⟩ := compactItems_append_inj hvs hrest
      exact ⟨rfl, hend⟩

/-! ### Members -/

theorem compactChars_object_nil (r : List Char) :
    compactChars (.object []) ++ r = '{' :: '}' :: r :=
  rfl

theorem compactChars_object_cons (k : String) (v : Json) (ms : List (String × Json))
    (r : List Char) : compactChars (.object ((k, v) :: ms)) ++ r
      = '{' :: (quote k ++ ':' :: (compactChars v ++
          ((compactMembers ms).flatMap (',' :: ·) ++ '}' :: r))) := by
  simp [compactChars, compactMembers, joinWith_cons]

theorem quote_ne_cons {c : Char} (h : c ≠ '"') (k : String) (r s : List Char) :
    quote k ++ r ≠ c :: s :=
  fun heq ↦ h (List.cons.inj heq).1.symm

/-- A written member ends where its text says it ends. -/
theorem compactMember_append_inj {m n : String × Json} {r s : List Char} (hm : EndsItself m.2)
    (hr : EndsNumber r) (hs : EndsNumber s)
    (h : quote m.1 ++ ':' :: (compactChars m.2 ++ r)
      = quote n.1 ++ ':' :: (compactChars n.2 ++ s)) : m = n ∧ r = s := by
  obtain ⟨hkey, hvalue⟩ := quote_append_inj h
  obtain ⟨hvalue, hrest⟩ := hm hr hs (List.cons.inj hvalue).2
  exact ⟨Prod.ext hkey hvalue, hrest⟩

/-- Written members behind the first end where their text says they end. -/
theorem compactMembers_append_inj {ms ns : List (String × Json)} {r s : List Char}
    (hms : ∀ m ∈ ms, EndsItself m.2)
    (h : (compactMembers ms).flatMap (',' :: ·) ++ '}' :: r
      = (compactMembers ns).flatMap (',' :: ·) ++ '}' :: s) : ms = ns ∧ r = s := by
  induction ms generalizing ns with
  | nil =>
    cases ns with
    | nil => exact ⟨rfl, (List.cons.inj h).2⟩
    | cons n ns => exact absurd (List.cons.inj h).1 (by decide)
  | cons m ms ih =>
    obtain ⟨hm, hms⟩ := List.forall_mem_cons.mp hms
    cases ns with
    | nil => exact absurd (List.cons.inj h).1 (by decide)
    | cons n ns =>
      simp only [compactMembers, List.flatMap_cons, List.cons_append, List.append_assoc,
        List.cons.injEq, true_and] at h
      obtain ⟨rfl, hrest⟩ := compactMember_append_inj hm (endsNumber_members ms r)
        (endsNumber_members ns s) h
      obtain ⟨rfl, hend⟩ := ih hms hrest
      exact ⟨rfl, hend⟩

/-- An object ends where its braces close. -/
theorem endsItself_object {ms : List (String × Json)} (hms : ∀ m ∈ ms, EndsItself m.2) :
    EndsItself (.object ms) := by
  intro w r s _ _ h
  cases sameForm_of_append h with
  | object _ ns =>
    match ms, ns with
    | [], [] => exact ⟨rfl, List.append_cancel_left h⟩
    | [], n :: ns =>
      rw [compactChars_object_nil, compactChars_object_cons] at h
      exact absurd (List.cons.inj h).2.symm (quote_ne_cons (by decide) n.1 _ _)
    | m :: ms, [] =>
      rw [compactChars_object_nil, compactChars_object_cons] at h
      exact absurd (List.cons.inj h).2 (quote_ne_cons (by decide) m.1 _ _)
    | m :: ms, n :: ns =>
      obtain ⟨hm, hms⟩ := List.forall_mem_cons.mp hms
      rw [compactChars_object_cons, compactChars_object_cons] at h
      obtain ⟨rfl, hrest⟩ := compactMember_append_inj hm (endsNumber_members ms r)
        (endsNumber_members ns s) (List.cons.inj h).2
      obtain ⟨rfl, hend⟩ := compactMembers_append_inj hms hrest
      exact ⟨rfl, hend⟩

/-! ### Values -/

mutual

theorem endsItself : ∀ v : Json, EndsItself v
  | .null => endsItself_null
  | .bool b => endsItself_bool b
  | .number m => endsItself_number m
  | .string k => endsItself_string k
  | .array vs => endsItself_array (endsItself_items vs)
  | .object ms => endsItself_object (endsItself_members ms)

theorem endsItself_items : ∀ (vs : List Json), ∀ v ∈ vs, EndsItself v
  | [] => List.forall_mem_nil _
  | v :: vs => List.forall_mem_cons.mpr ⟨endsItself v, endsItself_items vs⟩

theorem endsItself_members : ∀ (ms : List (String × Json)), ∀ m ∈ ms, EndsItself m.2
  | [] => List.forall_mem_nil _
  | (_, v) :: ms => List.forall_mem_cons.mpr ⟨endsItself v, endsItself_members ms⟩

end

/-- Different values have different compact texts. -/
theorem compact_injective {v w : Json} (h : v.compact = w.compact) : v = w := by
  have hchars : compactChars v = compactChars w := String.ofList_injective h
  refine (endsItself v endsNumber_nil endsNumber_nil ?_).1
  rw [hchars]

end MapStyle.Json
