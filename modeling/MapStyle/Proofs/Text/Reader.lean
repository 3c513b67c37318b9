import Mathlib.Data.List.DropRight
import MapStyle.Text.Token

/-!
# Readers and the blanks between tokens

Every token takes the blanks around it, so how many blanks stand in front of a text does not matter
to a reader that begins with a token, and what a reader leaves is known up to the blanks in front of
it. A reader that never reads past a bound can be replaced by another one that agrees with it below
the bound.
-/

namespace MapStyle.Text

/-- Blanks that may stand between two tokens. -/
def Blanks (s : List Char) : Prop := ∀ c ∈ s, isTokenBlank c = true

instance : DecidablePred Blanks := fun s ↦ List.decidableBAll _ s

theorem blanks_nil : Blanks [] := by simp [Blanks]

theorem blanks_takeWhile (s : List Char) : Blanks (s.takeWhile isTokenBlank) :=
  fun _ hc ↦ List.mem_takeWhile_imp hc

theorem Blanks.append {b b' : List Char} (h : Blanks b) (h' : Blanks b') : Blanks (b ++ b') := by
  intro c hc
  exact (List.mem_append.mp hc).elim (h c) (h' c)

theorem Blanks.dropWhile_append {b : List Char} (h : Blanks b) (s : List Char) :
    (b ++ s).dropWhile isTokenBlank = s.dropWhile isTokenBlank :=
  List.dropWhile_append_of_pos h

@[simp] theorem dropWhile_blank_idem (s : List Char) :
    (s.dropWhile isTokenBlank).dropWhile isTokenBlank = s.dropWhile isTokenBlank :=
  List.dropWhile_idempotent _ s

theorem dropWhile_blank_cons {c : Char} (h : isTokenBlank c = false) (s : List Char) :
    (c :: s).dropWhile isTokenBlank = c :: s := by
  rw [List.dropWhile_cons, if_neg (by simp [h])]

theorem length_dropWhile_blank_le (s : List Char) :
    (s.dropWhile isTokenBlank).length ≤ s.length :=
  (List.dropWhile_suffix isTokenBlank).length_le

/-! ## Replies up to blanks -/

/-- The reply without the blanks in front of what is left. -/
def Reply.settle {α : Type} : Reply α → Reply α
  | .ok value rest => .ok value (rest.dropWhile isTokenBlank)
  | .miss => .miss
  | .abort => .abort

namespace Reader

variable {α β : Type} {p q : Reader α} {f : α → Reader β} {s rest : List Char} {a : α} {b : β}

theorem token_eq (p : Reader α) (s : List Char) :
    token p s = (p (s.dropWhile isTokenBlank)).settle := by
  unfold token Reply.settle
  cases p (s.dropWhile isTokenBlank) <;> rfl

/-- Two readers in a row succeed if the first does, and the second does on what it leaves. -/
theorem bind_eq_ok : (p >>= f) s = .ok b rest ↔ ∃ a t, p s = .ok a t ∧ f a t = .ok b rest := by
  constructor
  · intro h
    rw [bind_apply] at h
    split at h
    · exact ⟨_, _, ‹_›, h⟩
    · contradiction
    · contradiction
  · rintro ⟨a, t, hp, hf⟩
    rw [bind_apply, hp]
    exact hf

theorem bind_of_ok {t : List Char} (h : p s = .ok a t) : (p >>= f) s = f a t := by
  rw [bind_apply, h]

theorem bind_of_miss (h : p s = .miss) : (p >>= f) s = .miss := by
  rw [bind_apply, h]

theorem orElse_of_ok (h : p s = .ok a rest) : orElse p q s = .ok a rest := by
  rw [orElse, h]

theorem orElse_of_miss (h : p s = .miss) : orElse p q s = q s := by
  rw [orElse, h]

theorem orElse_eq_ok :
    orElse p q s = .ok a rest ↔ p s = .ok a rest ∨ p s = .miss ∧ q s = .ok a rest := by
  rw [orElse]
  cases p s <;> simp

/-- The reader reads the value and leaves the text, up to the blanks in front of the text. -/
def Reads (p : Reader α) (s : List Char) (a : α) (rest : List Char) : Prop :=
  (p s).settle = .ok a (rest.dropWhile isTokenBlank)

/-- Readings are compared up to the blanks in front of what is left. -/
theorem Reads.exists (h : Reads p s a rest) :
    ∃ left, p s = .ok a left ∧ left.dropWhile isTokenBlank = rest.dropWhile isTokenBlank := by
  unfold Reads at h
  cases hp : p s with
  | ok a' left =>
    rw [hp, Reply.settle, Reply.ok.injEq] at h
    exact ⟨left, by rw [h.1], h.2⟩
  | miss =>
    rw [hp] at h
    contradiction
  | abort =>
    rw [hp] at h
    contradiction

/-! ## Readers that begin with a token -/

/-- Blanks in front of the text make no difference. -/
def Steady (p : Reader α) : Prop := ∀ s, p (s.dropWhile isTokenBlank) = p s

theorem Steady.append (h : Steady p) {blanks : List Char} (hblanks : Blanks blanks)
    (s : List Char) : p (blanks ++ s) = p s := by
  rw [← h (blanks ++ s), hblanks.dropWhile_append, h]

theorem Steady.congr (h : Steady p) {t : List Char}
    (hst : s.dropWhile isTokenBlank = t.dropWhile isTokenBlank) : p s = p t := by
  rw [← h s, hst, h]

theorem Steady.token (p : Reader α) : Steady (token p) := by
  intro s
  rw [token_eq, token_eq, dropWhile_blank_idem]

theorem Steady.symbol (c : Char) : Steady (symbol c) := Steady.token _

theorem Steady.bind (h : Steady p) (f : α → Reader β) : Steady (p >>= f) := by
  intro s
  rw [bind_apply, bind_apply, h]

theorem Steady.orElse (hp : Steady p) (hq : Steady q) : Steady (orElse p q) := by
  intro s
  rw [Reader.orElse, Reader.orElse, hp, hq]

theorem Steady.fail : Steady (fail : Reader α) := fun _ ↦ rfl

theorem Steady.choice {ps : List (Reader α)} (h : ∀ p ∈ ps, Steady p) : Steady (choice ps) := by
  induction ps with
  | nil => exact Steady.fail
  | cons p ps ih => exact (h p (by simp)).orElse (ih fun q hq ↦ h q (by simp [hq]))

/-- Blanks in front of the text make no difference but that they may be left. -/
def Lax (p : Reader α) : Prop := ∀ s, (p (s.dropWhile isTokenBlank)).settle = (p s).settle

theorem Steady.lax (h : Steady p) : Lax p := fun s ↦ by rw [h]

theorem Reads.of_lax (h : Reads p s a rest) (hp : Lax p) :
    Reads p (s.dropWhile isTokenBlank) a rest :=
  (hp s).trans h

theorem Lax.settle_congr (h : Lax p) {t : List Char}
    (hst : s.dropWhile isTokenBlank = t.dropWhile isTokenBlank) :
    (p s).settle = (p t).settle := by
  rw [← h s, hst, h]

theorem Lax.yield (a : α) : Lax (yield a) := by
  intro s
  rw [Reader.yield, Reader.yield, Reply.settle, Reply.settle, dropWhile_blank_idem]

/-- A reader that does not mind blanks leaves them to the next. -/
theorem Lax.bind (h : Lax p) (hf : ∀ a, Lax (f a)) : Lax (p >>= f) := by
  intro s
  have hs := h s
  rw [bind_apply, bind_apply]
  cases hp : p s with
  | ok a rest =>
    obtain ⟨left, hleft, hblank⟩ := Reads.exists (hs.trans (by rw [hp]; rfl))
    rw [hleft]
    exact (hf a).settle_congr hblank
  | miss =>
    rw [hp] at hs
    cases hd : p (s.dropWhile isTokenBlank) with
    | miss => rfl
    | _ => rw [hd] at hs; contradiction
  | abort =>
    rw [hp] at hs
    cases hd : p (s.dropWhile isTokenBlank) with
    | abort => rfl
    | _ => rw [hd] at hs; contradiction

/-- Reading on where a value was read up to blanks. -/
theorem Reads.bind (h : Reads p s a rest) (hf : Steady (f a)) : (p >>= f) s = f a rest := by
  obtain ⟨left, hp, hleft⟩ := h.exists
  rw [bind_of_ok hp, hf.congr hleft]

/-- Reading on up to blanks where a value was read up to blanks. -/
theorem Reads.settle_bind (h : Reads p s a rest) (hf : Lax (f a)) :
    ((p >>= f) s).settle = (f a rest).settle := by
  obtain ⟨left, hp, hleft⟩ := h.exists
  rw [bind_of_ok hp, hf.settle_congr hleft]

theorem Reads.token (h : Reads p (s.dropWhile isTokenBlank) a rest) :
    token p s = .ok a (rest.dropWhile isTokenBlank) :=
  (token_eq p s).trans h

/-- Blanks may stand on either side of what a token takes. -/
theorem token_eq_ok (h : Reader.token p s = .ok a rest) :
    ∃ after, Blanks after ∧ p (s.dropWhile isTokenBlank) = .ok a (after ++ rest) := by
  rw [token_eq] at h
  cases hp : p (s.dropWhile isTokenBlank) with
  | ok a' left =>
    rw [hp, Reply.settle, Reply.ok.injEq] at h
    refine ⟨left.takeWhile isTokenBlank, blanks_takeWhile left, ?_⟩
    rw [h.1, ← h.2, List.takeWhile_append_dropWhile]
  | miss =>
    rw [hp] at h
    contradiction
  | abort =>
    rw [hp] at h
    contradiction

theorem choice_of_ok {ps : List (Reader α)} (h : p s = .ok a rest) :
    choice (p :: ps) s = .ok a rest :=
  orElse_of_ok h

theorem choice_of_miss {ps : List (Reader α)} (h : p s = .miss) :
    choice (p :: ps) s = choice ps s :=
  orElse_of_miss h

/-- What a choice reads is read by one of its readers. -/
theorem choice_eq_ok {ps : List (Reader α)} (h : choice ps s = .ok a rest) :
    ∃ p ∈ ps, p s = .ok a rest := by
  induction ps with
  | nil => contradiction
  | cons p ps ih =>
    rcases orElse_eq_ok.mp h with hp | ⟨-, hps⟩
    · exact ⟨p, by simp, hp⟩
    · obtain ⟨q, hq, hok⟩ := ih hps
      exact ⟨q, by simp [hq], hok⟩

/-! ## Runs -/

/-- The text does not begin with a character of the class. -/
def Stops (accept : Char → Bool) (rest : List Char) : Prop := ∀ c ∈ rest.head?, accept c = false

variable {accept : Char → Bool} {cs : List Char}

theorem Stops.mono {wider : Char → Bool} (h : Stops wider rest)
    (hwider : ∀ c, accept c = true → wider c = true) : Stops accept rest := by
  intro c hc
  by_contra haccept
  have hc' : wider c = true := hwider c (by simpa using haccept)
  rw [h c hc] at hc'
  contradiction

theorem takeWhile_append_of_stops (h : ∀ c ∈ cs, accept c = true) (hrest : Stops accept rest) :
    (cs ++ rest).takeWhile accept = cs := by
  rw [List.takeWhile_append_of_pos h]
  cases rest with
  | nil => simp
  | cons c rest => simp [hrest c rfl]

theorem dropWhile_append_of_stops (h : ∀ c ∈ cs, accept c = true) (hrest : Stops accept rest) :
    (cs ++ rest).dropWhile accept = rest := by
  rw [List.dropWhile_append_of_pos h]
  cases rest with
  | nil => rfl
  | cons c rest => simp [hrest c rfl]

theorem stops_dropWhile (accept : Char → Bool) (s : List Char) :
    Stops accept (s.dropWhile accept) := by
  intro c hc
  have hhead := List.head?_dropWhile_not accept s
  rw [Option.mem_def.mp hc] at hhead
  simpa using hhead

theorem run_append (h : ∀ c ∈ cs, accept c = true) (hrest : Stops accept rest) :
    run accept (cs ++ rest) = .ok cs rest := by
  rw [run, takeWhile_append_of_stops h hrest, dropWhile_append_of_stops h hrest]

theorem run1_append (h : ∀ c ∈ cs, accept c = true) (hne : cs ≠ []) (hrest : Stops accept rest) :
    run1 accept (cs ++ rest) = .ok cs rest := by
  rw [run1, takeWhile_append_of_stops h hrest, dropWhile_append_of_stops h hrest]
  cases cs with
  | nil => contradiction
  | cons c cs => rfl

theorem run1_miss (h : Stops accept s) : run1 accept s = .miss := by
  rw [run1, ← List.nil_append s, takeWhile_append_of_stops (by simp) h]

/-- A run is as long as it can be, and not empty. -/
theorem run1_eq_ok (h : run1 accept s = .ok cs rest) :
    s = cs ++ rest ∧ (∀ c ∈ cs, accept c = true) ∧ cs ≠ [] ∧ Stops accept rest := by
  rw [run1] at h
  split at h
  · contradiction
  · rename_i c t htake
    cases h
    rw [← htake, List.takeWhile_append_dropWhile]
    exact ⟨rfl, fun d hd ↦ List.mem_takeWhile_imp hd, by simp [htake], stops_dropWhile accept s⟩

theorem run_eq_ok (h : run accept s = .ok cs rest) :
    s = cs ++ rest ∧ (∀ c ∈ cs, accept c = true) ∧ Stops accept rest := by
  cases h
  exact ⟨List.takeWhile_append_dropWhile.symm, fun c hc ↦ List.mem_takeWhile_imp hc,
    stops_dropWhile accept s⟩

/-! ## Single characters -/

variable {c d : Char}

theorem satisfy_cons (h : accept c = true) (s : List Char) :
    satisfy accept (c :: s) = .ok c s := by
  rw [satisfy, if_pos h]

theorem satisfy_miss (h : Stops accept s) : satisfy accept s = .miss := by
  cases s with
  | nil => rfl
  | cons c s => rw [satisfy, h c rfl, if_neg Bool.false_ne_true]

theorem satisfy_eq_ok (h : satisfy accept s = .ok c rest) : s = c :: rest ∧ accept c = true := by
  cases s with
  | nil => contradiction
  | cons d s =>
    rw [satisfy] at h
    split at h
    · rename_i hd
      cases h
      exact ⟨rfl, hd⟩
    · contradiction

theorem char_cons (c : Char) (s : List Char) : char c (c :: s) = .ok c s :=
  satisfy_cons (beq_self_eq_true c) s

theorem char_miss (h : s.head? ≠ some c) : char c s = .miss := by
  apply satisfy_miss
  intro d hd
  rw [Option.mem_def.mp hd, Ne, Option.some.injEq] at h
  simpa using h

theorem char_eq_ok (h : char c s = .ok d rest) : s = c :: rest := by
  obtain ⟨rfl, hd⟩ := satisfy_eq_ok h
  rw [eq_of_beq hd]

theorem text_append (cs s : List Char) : text cs (cs ++ s) = .ok () s := by
  induction cs with
  | nil => rfl
  | cons c cs ih => rw [List.cons_append, text, if_pos rfl, ih]

theorem text_miss {cs : List Char} (hne : cs ≠ []) (h : s.head? ≠ cs.head?) :
    text cs s = .miss := by
  cases cs with
  | nil => contradiction
  | cons c cs =>
    cases s with
    | nil => rfl
    | cons d s =>
      rw [text, if_neg]
      rintro rfl
      exact h rfl

/-- A text is taken as it is. -/
theorem text_eq_ok {cs : List Char} {u : Unit} (h : text cs s = .ok u rest) : s = cs ++ rest := by
  induction cs generalizing s with
  | nil =>
    cases h
    rfl
  | cons c cs ih =>
    cases s with
    | nil => contradiction
    | cons d s =>
      rw [text] at h
      split at h
      · rename_i hcd
        rw [hcd, ih h, List.cons_append]
      · contradiction

theorem optional_of_ok (h : p s = .ok a rest) :
    optional p s = .ok (some a) rest := by
  rw [Reader.optional, h]

theorem optional_of_miss (h : p s = .miss) :
    optional p s = .ok none s := by
  rw [Reader.optional, h]

theorem attempt_of_ok (h : p s = .ok a rest) : attempt p s = .ok (some a) rest := by
  rw [Reader.attempt, h]

theorem attempt_of_miss (h : p s = .miss) : attempt p s = .ok none s := by
  rw [Reader.attempt, h]

theorem attempt_eq_ok {a? : Option α} (h : attempt p s = .ok a? rest) :
    (∃ a, a? = some a ∧ p s = .ok a rest) ∨ a? = none ∧ rest = s := by
  rw [Reader.attempt] at h
  split at h
  · rename_i a t hp
    cases h
    exact .inl ⟨a, rfl, hp⟩
  · cases h
    exact .inr ⟨rfl, rfl⟩
  · cases h
    exact .inr ⟨rfl, rfl⟩

theorem optional_eq_ok {a? : Option α} (h : optional p s = .ok a? rest) :
    (∃ a, a? = some a ∧ p s = .ok a rest) ∨ a? = none ∧ rest = s ∧ p s = .miss := by
  rw [Reader.optional] at h
  split at h
  · rename_i a t hp
    cases h
    exact .inl ⟨a, rfl, hp⟩
  · rename_i hp
    cases h
    exact .inr ⟨rfl, rfl, hp⟩
  · contradiction

/-- A text is read whole if nothing of it is left. -/
theorem whole_eq_some : whole p s = some a ↔ p s = .ok a [] := by
  rw [whole]
  constructor
  · intro h
    split at h
    · cases h
      assumption
    · contradiction
  · intro h
    rw [h]

/-! ## Symbols -/

theorem symbol_cons (h : isTokenBlank c = false) (s : List Char) :
    symbol c (c :: s) = .ok c (s.dropWhile isTokenBlank) := by
  rw [symbol, token_eq, dropWhile_blank_cons h, char, satisfy, if_pos (beq_self_eq_true c)]
  rfl

/-- A symbol is read behind blanks. -/
theorem symbol_of_dropWhile (h : isTokenBlank c = false) {t : List Char}
    (hs : s.dropWhile isTokenBlank = c :: t) : symbol c s = .ok c (t.dropWhile isTokenBlank) := by
  rw [← Steady.symbol c s, hs, symbol_cons h]

theorem symbol_miss (h : (s.dropWhile isTokenBlank).head? ≠ some c) : symbol c s = .miss := by
  rw [symbol, token_eq]
  cases hs : s.dropWhile isTokenBlank with
  | nil => rfl
  | cons d t =>
    rw [hs, List.head?_cons, Ne, Option.some.injEq] at h
    rw [char, satisfy, if_neg (by simpa using h)]
    rfl

theorem symbol_eq_ok {d : Char} (h : symbol c s = .ok d rest) :
    ∃ before after, Blanks before ∧ Blanks after ∧ s = before ++ c :: (after ++ rest) := by
  obtain ⟨after, hafter, hchar⟩ := token_eq_ok h
  refine ⟨s.takeWhile isTokenBlank, after, blanks_takeWhile s, hafter, ?_⟩
  rw [← char_eq_ok hchar, List.takeWhile_append_dropWhile]

/-! ## Repetition -/

theorem many_of_miss (h : p s = .miss) : many p s = .ok [] s := by
  rw [many, h]

theorem many_of_ok (h : p s = .ok a rest) (hlt : rest.length < s.length) :
    many p s = (many p rest).map (a :: ·) := by
  rw [many, h]
  dsimp only
  rw [if_pos hlt]
  cases many p rest <;> rfl

/-- A list that was read is empty, or it has a first item that took something. -/
theorem many_eq_ok {as : List α} (h : many p s = .ok as rest) :
    as = [] ∧ rest = s ∧ p s = .miss ∨
      ∃ a others t, as = a :: others ∧ p s = .ok a t ∧ t.length < s.length ∧
        many p t = .ok others rest := by
  rw [many] at h
  split at h
  · rename_i hmiss
    cases h
    exact .inl ⟨rfl, rfl, hmiss⟩
  · contradiction
  · rename_i a t hp
    split at h
    · rename_i hlt
      split at h
      · rename_i others left hothers
        cases h
        exact .inr ⟨a, others, t, rfl, hp, hlt, hothers⟩
      · contradiction
      · contradiction
    · contradiction

variable {separator : Reader β}

theorem separated_of_miss (h : p s = .miss) : separated p separator s = .ok [] s := by
  rw [separated, h]

theorem separated_of_ok (h : p s = .ok a rest) :
    separated p separator s = (many (separator >>= fun _ ↦ p) rest).map (a :: ·) := by
  have hbind : (separator >>= fun _ ↦ p) = andThen separator fun _ ↦ p := rfl
  rw [separated, h, hbind]
  dsimp only
  cases many (andThen separator fun _ ↦ p) rest <;> rfl

/-- A list with separators is empty, or it has a first item and others behind separators. -/
theorem separated_eq_ok {as : List α} (h : separated p separator s = .ok as rest) :
    as = [] ∧ rest = s ∧ p s = .miss ∨
      ∃ a others t, as = a :: others ∧ p s = .ok a t ∧
        many (separator >>= fun _ ↦ p) t = .ok others rest := by
  cases hp : p s with
  | miss =>
    rw [separated_of_miss hp] at h
    cases h
    exact .inl ⟨rfl, rfl, rfl⟩
  | abort =>
    rw [separated, hp] at h
    contradiction
  | ok a t =>
    rw [separated_of_ok hp] at h
    cases hmany : many (separator >>= fun _ ↦ p) t with
    | ok others left =>
      rw [hmany] at h
      cases h
      exact .inr ⟨a, others, t, rfl, rfl, hmany⟩
    | miss =>
      rw [hmany] at h
      contradiction
    | abort =>
      rw [hmany] at h
      contradiction

/-! ## Readers that agree on some texts -/

/-- The readers make the same of every text of the set. -/
def AgreeIn (D : List Char → Prop) (p q : Reader α) : Prop := ∀ ⦃s : List Char⦄, D s → p s = q s

/-- What the reader leaves of a text of the set belongs to the set. -/
def Stays (D : List Char → Prop) (p : Reader α) : Prop :=
  ∀ ⦃s rest : List Char⦄ ⦃a : α⦄, D s → p s = .ok a rest → D rest

namespace AgreeIn

variable {D : List Char → Prop} {g : α → Reader β}

theorem refl (D : List Char → Prop) (p : Reader α) : AgreeIn D p p := fun _ _ ↦ rfl

theorem bind (h : AgreeIn D p q) (hp : Stays D p) (hf : ∀ a, AgreeIn D (f a) (g a)) :
    AgreeIn D (p >>= f) (q >>= g) := by
  intro s hs
  rw [bind_apply, bind_apply, ← h hs]
  cases hps : p s with
  | ok a rest => exact hf a (hp hs hps)
  | miss => rfl
  | abort => rfl

theorem bind_left (h : AgreeIn D p q) (f : α → Reader β) : AgreeIn D (p >>= f) (q >>= f) := by
  intro s hs
  rw [bind_apply, bind_apply, h hs]

theorem orElse {p' q' : Reader α} (h : AgreeIn D p q) (h' : AgreeIn D p' q') :
    AgreeIn D (orElse p p') (orElse q q') := by
  intro s hs
  rw [Reader.orElse, Reader.orElse, h hs, h' hs]

theorem optional (h : AgreeIn D p q) : AgreeIn D (optional p) (optional q) := by
  intro s hs
  rw [Reader.optional, Reader.optional, h hs]

theorem attempt (h : AgreeIn D p q) : AgreeIn D (attempt p) (attempt q) := by
  intro s hs
  rw [Reader.attempt, Reader.attempt, h hs]

/-- By strong induction over the text, as each item leaves less of it. -/
theorem many (h : AgreeIn D p q) (hp : Stays D p) : AgreeIn D (many p) (many q) := by
  intro s
  induction hlength : s.length using Nat.strong_induction_on generalizing s with
  | _ length ih =>
    intro hs
    rw [Reader.many, Reader.many, ← h hs]
    cases hps : p s with
    | miss => rfl
    | abort => rfl
    | ok a rest =>
      dsimp only
      split
      · rw [ih rest.length (by omega) rfl (hp hs hps)]
      · rfl

/-- The items behind the first are read like any list. -/
theorem separated (h : AgreeIn D p q) (hp : Stays D p) {separator : Reader β}
    (hseparator : Stays D separator) :
    AgreeIn D (separated p separator) (separated q separator) := by
  have hnext : AgreeIn D (andThen separator fun _ ↦ p) (andThen separator fun _ ↦ q) :=
    bind (refl D separator) hseparator fun _ ↦ h
  have hstays : Stays D (andThen separator fun _ ↦ p) := by
    intro s rest a hs hok
    obtain ⟨b, t, hb, ha⟩ := bind_eq_ok.mp hok
    exact hp (hseparator hs hb) ha
  intro s hs
  rw [Reader.separated, Reader.separated, ← h hs]
  cases hps : p s with
  | miss => rfl
  | abort => rfl
  | ok a rest =>
    dsimp only
    rw [hnext.many hstays (hp hs hps)]

end AgreeIn

/-! ## Readers that agree on short texts -/

/-- The readers make the same of every text shorter than the bound. -/
def Agree (n : Nat) (p q : Reader α) : Prop := ∀ s : List Char, s.length < n → p s = q s

/-- What is left is never longer than the text. -/
def Shrinking (p : Reader α) : Prop :=
  ∀ ⦃s rest : List Char⦄ ⦃a : α⦄, p s = .ok a rest → rest.length ≤ s.length

/-- What is left is always shorter than the text. -/
def Consuming (p : Reader α) : Prop :=
  ∀ ⦃s rest : List Char⦄ ⦃a : α⦄, p s = .ok a rest → rest.length < s.length

theorem Consuming.shrinking (h : Consuming p) : Shrinking p :=
  fun _ _ _ hp ↦ Nat.le_of_lt (h hp)

theorem Shrinking.stays (h : Shrinking p) (n : Nat) : Stays (fun s ↦ s.length < n) p :=
  fun _ _ _ hs hp ↦ Nat.lt_of_le_of_lt (h hp) hs

theorem Shrinking.bind (h : Shrinking p) (hf : ∀ a, Shrinking (f a)) : Shrinking (p >>= f) := by
  intro s rest b hb
  obtain ⟨a, t, hp, hf'⟩ := bind_eq_ok.mp hb
  exact (hf a hf').trans (h hp)

theorem Consuming.bind (h : Consuming p) (hf : ∀ a, Shrinking (f a)) : Consuming (p >>= f) := by
  intro s rest b hb
  obtain ⟨a, t, hp, hf'⟩ := bind_eq_ok.mp hb
  exact Nat.lt_of_le_of_lt (hf a hf') (h hp)

theorem Consuming.orElse (hp : Consuming p) (hq : Consuming q) : Consuming (orElse p q) := by
  intro s rest a h
  exact (orElse_eq_ok.mp h).elim (fun h ↦ hp h) fun h ↦ hq h.2

theorem shrinking_yield (a : α) : Shrinking (yield a) := by
  intro s rest b h
  cases h
  exact Nat.le_refl _

theorem shrinking_fail : Shrinking (fail : Reader α) := fun _ _ _ h ↦ nomatch h

/-- Repetition of a steady reader that takes something from every text. -/
theorem Steady.lax_many (h : Steady p) (hp : Consuming p) : Lax (many p) := by
  intro s
  have hs := h s
  cases hps : p s with
  | miss =>
    rw [many_of_miss hps, many_of_miss (hs.trans hps)]
    exact Lax.yield [] s
  | abort => rw [many, many, hs, hps]
  | ok a rest => rw [many_of_ok hps (hp hps), many_of_ok (hs.trans hps) (hp (hs.trans hps))]

/-- Blanks in front of the first item do not matter. -/
theorem Steady.lax_separated (h : Steady p) : Lax (separated p separator) := by
  intro s
  have hs := h s
  cases hps : p s with
  | miss =>
    rw [separated_of_miss hps, separated_of_miss (hs.trans hps)]
    exact Lax.yield [] s
  | abort => rw [separated, separated, hs, hps]
  | ok a rest => rw [separated_of_ok hps, separated_of_ok (hs.trans hps)]

theorem consuming_symbol (c : Char) : Consuming (symbol c) := by
  intro s rest d h
  obtain ⟨before, after, -, -, rfl⟩ := symbol_eq_ok h
  simp only [List.length_append, List.length_cons]
  omega

namespace Agree

variable {m n : Nat} {g : α → Reader β}

theorem on (h : Agree n p q) : AgreeIn (fun s ↦ s.length < n) p q := fun s hs ↦ h s hs

theorem of_on (h : AgreeIn (fun s ↦ s.length < n) p q) : Agree n p q := fun _ hs ↦ h hs

theorem refl (n : Nat) (p : Reader α) : Agree n p p := fun _ _ ↦ rfl

theorem bind (h : Agree n p q) (hp : Shrinking p) (hf : ∀ a, Agree n (f a) (g a)) :
    Agree n (p >>= f) (q >>= g) :=
  of_on (h.on.bind (hp.stays n) fun a ↦ (hf a).on)

/-- Behind a reader that takes something from the text, agreement on shorter texts is enough. -/
theorem bind_of_consuming (hp : Consuming p) (hf : ∀ a, Agree n (f a) (g a)) :
    Agree (n + 1) (p >>= f) (p >>= g) := by
  intro s hs
  rw [bind_apply, bind_apply]
  cases hps : p s with
  | ok a rest => exact hf a rest (Nat.lt_of_lt_of_le (hp hps) (Nat.le_of_lt_succ hs))
  | miss => rfl
  | abort => rfl

theorem bind_left (h : Agree n p q) (f : α → Reader β) : Agree n (p >>= f) (q >>= f) :=
  of_on (h.on.bind_left f)

theorem orElse {p' q' : Reader α} (h : Agree n p q) (h' : Agree n p' q') :
    Agree n (orElse p p') (orElse q q') :=
  of_on (h.on.orElse h'.on)

theorem optional (h : Agree n p q) : Agree n (optional p) (optional q) := of_on h.on.optional

theorem attempt (h : Agree n p q) : Agree n (attempt p) (attempt q) := of_on h.on.attempt

theorem token (h : Agree n p q) : Agree n (token p) (token q) := by
  intro s hs
  rw [token_eq, token_eq, h _ (Nat.lt_of_le_of_lt (length_dropWhile_blank_le s) hs)]

theorem many (h : Agree n p q) (hp : Shrinking p) : Agree n (many p) (many q) :=
  of_on (h.on.many (hp.stays n))

theorem separated (h : Agree n p q) (hp : Shrinking p) {separator : Reader β}
    (hseparator : Shrinking separator) :
    Agree n (separated p separator) (separated q separator) :=
  of_on (h.on.separated (hp.stays n) (hseparator.stays n))

end Agree

end Reader

end MapStyle.Text
