import Mathlib.Data.List.TakeWhile
import MapStyle.Decimal.Reader
import MapStyle.Json.Printer
import MapStyle.Proofs.Decimal.Rounding

/-!
# Written decimals read back

A decimal that is laid out positionally or with an exponent denotes, read as a numeral, a decimal
of the same value. A written double therefore determines the double.
-/

namespace MapStyle.Decimal

theorem ofDigits_eq (cs : List Char) : ofDigits cs = Nat.ofDigitChars 10 cs 0 := by
  unfold ofDigits Nat.ofDigitChars digitValue
  congr 1
  funext n c
  ring

theorem ofDigits_append (cs ds : List Char) :
    ofDigits (cs ++ ds) = ofDigits cs * 10 ^ ds.length + ofDigits ds := by
  rw [ofDigits_eq, ofDigits_eq, ofDigits_eq, Nat.ofDigitChars_append,
    Nat.ofDigitChars_eq_ofDigitChars_zero]
  ring

@[simp] theorem ofDigits_replicate_zero (n : ℕ) : ofDigits (List.replicate n '0') = 0 := by
  simp [ofDigits_eq]

@[simp] theorem ofDigits_toDigits (n : ℕ) : ofDigits (Nat.toDigits 10 n) = n := by
  simp [ofDigits_eq]

@[simp] theorem ofDigits_digitText (d : Decimal) : ofDigits d.digitText = d.digits :=
  ofDigits_toDigits d.digits

theorem ofDigits_zero_cons (cs : List Char) : ofDigits ('0' :: cs) = ofDigits cs := by
  rw [← List.singleton_append, ofDigits_append, show ofDigits ['0'] = 0 from rfl]
  simp

theorem isDigit_of_mem_digitText {d : Decimal} {c : Char} (h : c ∈ d.digitText) : c.isDigit :=
  Nat.isDigit_of_mem_toDigits (by norm_num) (by norm_num) h

theorem digitText_ne_nil (d : Decimal) : d.digitText ≠ [] := Nat.toDigits_ne_nil

theorem isDigit_of_mem_zeros {n : ℕ} {c : Char} (h : c ∈ List.replicate n '0') : c.isDigit := by
  rw [List.eq_of_mem_replicate h]
  decide

theorem value_ofParts (whole fraction : List Char) (scale : ℤ) :
    (ofParts whole fraction scale).value =
      ofDigits (whole ++ fraction) * (10 : ℚ) ^ (scale - fraction.length) := rfl

/-! ## Numerals -/

theorem takeWhile_append_cons {α : Type} {p : α → Bool} {l : List α} (hl : ∀ b ∈ l, p b) (a : α)
    (ha : p a = false) (rest : List α) : (l ++ a :: rest).takeWhile p = l := by
  rw [List.takeWhile_append_of_pos hl]
  simp [ha]

theorem dropWhile_append_cons {α : Type} {p : α → Bool} {l : List α} (hl : ∀ b ∈ l, p b) (a : α)
    (ha : p a = false) (rest : List α) : (l ++ a :: rest).dropWhile p = a :: rest := by
  rw [List.dropWhile_append_of_pos hl]
  simp [ha]

theorem readUnsigned_point (whole fraction : List Char) (hwhole : ∀ c ∈ whole, c.isDigit)
    (hfraction : ∀ c ∈ fraction, c.isDigit) (hne : whole ≠ []) :
    readUnsigned (whole ++ '.' :: fraction) = some (ofParts whole fraction 0) := by
  have htake := takeWhile_append_cons hwhole '.' (by decide) fraction
  have hdrop := dropWhile_append_cons hwhole '.' (by decide) fraction
  simp [readUnsigned, htake, hdrop, List.takeWhile_eq_self_iff.mpr hfraction,
    List.dropWhile_eq_nil_iff.mpr hfraction, hne]

/-- The exponent that is written is read back. -/
theorem readExponent_exponentText (n : ℤ) {rest : List Char}
    (h : exponentText n = 'e' :: rest) : readExponent rest = some n := by
  have hdigits : ∀ c ∈ Nat.toDigits 10 n.natAbs, c.isDigit := fun c hc ↦
    Nat.isDigit_of_mem_toDigits (by norm_num) (by norm_num) hc
  simp only [exponentText, List.cons.injEq, true_and] at h
  subst h
  -- the padding zero changes neither the digits nor their value
  generalize hpadded : (if (Nat.toDigits 10 n.natAbs).length < 2 then
    '0' :: Nat.toDigits 10 n.natAbs else Nat.toDigits 10 n.natAbs) = padded
  have hall : padded.all Char.isDigit = true := by
    subst hpadded
    split <;> simpa using hdigits
  have hvalue : ofDigits padded = n.natAbs := by
    subst hpadded
    split <;> simp [ofDigits_zero_cons]
  have hne : padded.isEmpty = false := by
    subst hpadded
    split <;> simp
  by_cases hn : n < 0
  · simp only [readExponent, splitSign, if_pos hn, hall, hvalue, hne]
    simp [abs_of_neg hn]
  · simp only [readExponent, splitSign, if_neg hn, hall, hvalue, hne]
    simp [abs_of_nonneg (not_lt.mp hn)]

/-! ## The two layouts -/

/-- With zeros behind the digits the value is that of the digits, scaled up. -/
theorem readUnsigned_scaled (d : Decimal) {k : ℕ} (hk : d.exponent = k) :
    ∃ d', readUnsigned (d.digitText ++ List.replicate k '0' ++ ".0".toList) = some d' ∧
      d'.value = d.value := by
  refine ⟨_, readUnsigned_point (d.digitText ++ List.replicate k '0') ['0'] ?_ (by simp)
    (by simp [d.digitText_ne_nil]), ?_⟩
  · intro c hc
    rcases List.mem_append.mp hc with hc | hc
    · exact isDigit_of_mem_digitText hc
    · exact isDigit_of_mem_zeros hc
  · have hone : ofDigits ['0'] = 0 := rfl
    rw [value_ofParts, ofDigits_append, ofDigits_append, hone]
    simp only [ofDigits_digitText, ofDigits_replicate_zero, List.length_replicate,
      List.length_singleton, value, hk, zpow_natCast]
    push_cast
    calc
      _ = ((d.digits : ℚ) * 10 ^ k * 10 + 0) * 10 ^ (-1 : ℤ) := by norm_num
      _ = (d.digits : ℚ) * 10 ^ k * (10 * 10 ^ (-1 : ℤ)) := by ring
      _ = (d.digits : ℚ) * 10 ^ k := by norm_num

/-- With zeros before the digits the value is that of the digits, scaled down. -/
theorem readUnsigned_padded (d : Decimal) {k : ℕ} (hk : d.exponent = -k)
    (hlength : d.digitText.length ≤ k) :
    ∃ d', readUnsigned ("0.".toList ++ List.replicate (k - d.digitText.length) '0' ++ d.digitText)
        = some d' ∧ d'.value = d.value := by
  refine ⟨_, readUnsigned_point ['0']
    (List.replicate (k - d.digitText.length) '0' ++ d.digitText) (by simp) ?_ (by simp), ?_⟩
  · intro c hc
    rcases List.mem_append.mp hc with hc | hc
    · exact isDigit_of_mem_zeros hc
    · exact isDigit_of_mem_digitText hc
  · rw [value_ofParts, List.singleton_append, ofDigits_zero_cons, ofDigits_append]
    simp only [ofDigits_digitText, ofDigits_replicate_zero, List.length_append,
      List.length_replicate, value, hk]
    congr 2
    · simp
    · omega

/-- With the point between the digits the value is that of the digits, scaled down. -/
theorem readUnsigned_split (d : Decimal) {k : ℕ} (hk : d.exponent = -k)
    (hlength : k < d.digitText.length) :
    ∃ d', readUnsigned (d.digitText.take (d.digitText.length - k) ++
        '.' :: d.digitText.drop (d.digitText.length - k)) = some d' ∧ d'.value = d.value := by
  refine ⟨_, readUnsigned_point _ _
    (fun c hc ↦ isDigit_of_mem_digitText (List.mem_of_mem_take hc))
    (fun c hc ↦ isDigit_of_mem_digitText (List.mem_of_mem_drop hc)) ?_, ?_⟩
  · simp only [ne_eq, List.take_eq_nil_iff, not_or]
    exact ⟨by omega, d.digitText_ne_nil⟩
  · rw [value_ofParts, List.take_append_drop, ofDigits_digitText]
    simp only [value, hk, List.length_drop]
    congr 2
    omega

/-- A decimal in positional layout is read with its value. -/
theorem readUnsigned_positional (d : Decimal) :
    ∃ d', readUnsigned (d.positional ".0".toList) = some d' ∧ d'.value = d.value := by
  unfold positional
  simp only
  split
  · rename_i he
    exact readUnsigned_scaled d (Int.toNat_of_nonneg he).symm
  · rename_i he
    have hk : d.exponent = -((-d.exponent).toNat : ℤ) := by omega
    split
    · rename_i hlength
      exact readUnsigned_padded d hk hlength
    · rename_i hlength
      exact readUnsigned_split d hk (Nat.lt_of_not_le hlength)

/-- A decimal in scientific layout is read with its value. -/
theorem readUnsigned_scientific (d : Decimal) :
    ∃ d', readUnsigned d.scientific = some d' ∧ d'.value = d.value := by
  have hdigits : ∀ c ∈ d.digitText, c.isDigit := fun c hc ↦ isDigit_of_mem_digitText hc
  have hvalue := ofDigits_digitText d
  have hleading : d.leading = d.exponent + (d.digitText.length : ℤ) - 1 := rfl
  obtain ⟨tail, htail⟩ : ∃ tail, exponentText d.leading = 'e' :: tail := ⟨_, rfl⟩
  have hexponent := readExponent_exponentText _ htail
  unfold scientific
  cases hds : d.digitText with
  | nil => exact absurd hds d.digitText_ne_nil
  | cons c rest =>
    rw [hds] at hdigits hvalue hleading
    have hc : c.isDigit = true := hdigits c (by simp)
    have hrest : ∀ b ∈ rest, b.isDigit = true := fun b hb ↦ hdigits b (by simp [hb])
    have hmark : ('e' : Char).isDigit = false := by decide
    have hpoint : ('.' : Char).isDigit = false := by decide
    refine ⟨ofParts [c] rest d.leading, ?_, ?_⟩
    · cases rest with
      | nil => simp [htail, readUnsigned, hc, hmark, hexponent]
      | cons r rs =>
        have htake := takeWhile_append_cons hrest 'e' hmark tail
        have hdrop := dropWhile_append_cons hrest 'e' hmark tail
        simp only [List.cons_append] at htake hdrop
        simp [htail, readUnsigned, hc, hpoint, htake, hdrop, hexponent]
    · rw [value_ofParts, List.singleton_append, hvalue, value, hleading]
      congr 2
      simp only [List.length_cons]
      push_cast
      ring

end MapStyle.Decimal

namespace MapStyle.Json

open Decimal

/-- The decimal as a double without a sign is written. -/
def unsignedText (d : Decimal) : List Char :=
  if -5 ≤ d.leading && d.leading ≤ 15 then d.positional ".0".toList else d.scientific

theorem floatText_eq (x : Float) : floatText x =
    if Binary64.isNegative x then '-' :: unsignedText (shortest .toEven x)
    else unsignedText (shortest .toEven x) := rfl

theorem readUnsigned_unsignedText (d : Decimal) :
    ∃ d', readUnsigned (unsignedText d) = some d' ∧ d'.value = d.value := by
  unfold unsignedText
  split
  · exact readUnsigned_positional d
  · exact readUnsigned_scientific d

theorem value_eq_of_unsignedText_eq {d e : Decimal} (h : unsignedText d = unsignedText e) :
    d.value = e.value := by
  obtain ⟨d', hd, hvd⟩ := readUnsigned_unsignedText d
  obtain ⟨e', he, hve⟩ := readUnsigned_unsignedText e
  rw [h, he] at hd
  cases hd
  rw [← hvd, hve]

theorem unsignedText_ne_minus (d : Decimal) (s : List Char) : unsignedText d ≠ '-' :: s := by
  intro h
  obtain ⟨d', hd, -⟩ := readUnsigned_unsignedText d
  rw [h] at hd
  cases hd

/-- Different doubles are written differently. -/
theorem floatText_injective {x y : Float} (h : floatText x = floatText y) : x = y := by
  rw [floatText_eq, floatText_eq] at h
  have hsign : Binary64.isNegative x = Binary64.isNegative y := by
    by_cases hx : Binary64.isNegative x <;> by_cases hy : Binary64.isNegative y
    · rw [hx, hy]
    · rw [if_pos hx, if_neg hy] at h
      exact absurd h.symm (unsignedText_ne_minus _ _)
    · rw [if_neg hx, if_pos hy] at h
      exact absurd h (unsignedText_ne_minus _ _)
    · rw [Bool.not_eq_true] at hx hy
      rw [hx, hy]
  have htext : unsignedText (shortest .toEven x) = unsignedText (shortest .toEven y) := by
    rw [hsign] at h
    split at h
    · exact (List.cons.inj h).2
    · exact h
  exact Binary64.eq_of_value_shortest hsign (value_eq_of_unsignedText_eq htext)

/-! ## The characters of a number -/

/-- The characters that numbers are written with. -/
def isNumeric (c : Char) : Bool := c.isDigit || c = '-' || c = '+' || c = '.' || c = 'e'

/-- The characters that doubles are written with and integers are not. -/
def isFloatMark (c : Char) : Bool := c = '.' || c = 'e'

theorem isNumeric_of_mem_toDigits {n : ℕ} {c : Char} (h : c ∈ Nat.toDigits 10 n) :
    isNumeric c = true := by
  have hdigit := Nat.isDigit_of_mem_toDigits (by norm_num) (by norm_num) h
  simp [isNumeric, hdigit]

theorem isNumeric_of_mem_positional {d : Decimal} {c : Char}
    (h : c ∈ d.positional ".0".toList) : isNumeric c = true := by
  have hdigits : ∀ c ∈ d.digitText, isNumeric c = true := fun c hc ↦ isNumeric_of_mem_toDigits hc
  have hzero : ∀ n, ∀ c ∈ List.replicate n '0', isNumeric c = true := by
    intro n c hc
    rw [List.eq_of_mem_replicate hc]
    decide
  unfold positional at h
  simp only at h
  split at h
  · rcases List.mem_append.mp h with h | h
    · rcases List.mem_append.mp h with h | h
      · exact hdigits c h
      · exact hzero _ c h
    · revert h
      have : ∀ c ∈ ".0".toList, isNumeric c = true := by simp [isNumeric]
      exact this c
  · split at h
    · rcases List.mem_append.mp h with h | h
      · rcases List.mem_append.mp h with h | h
        · have : ∀ c ∈ "0.".toList, isNumeric c = true := by simp [isNumeric]
          exact this c h
        · exact hzero _ c h
      · exact hdigits c h
    · rcases List.mem_append.mp h with h | h
      · exact hdigits c (List.mem_of_mem_take h)
      · rcases List.mem_cons.mp h with rfl | h
        · decide
        · exact hdigits c (List.mem_of_mem_drop h)

theorem isNumeric_of_mem_exponentText {n : ℤ} {c : Char} (h : c ∈ exponentText n) :
    isNumeric c = true := by
  simp only [exponentText, List.mem_cons] at h
  rcases h with rfl | rfl | h
  · decide
  · split <;> decide
  · split at h
    · rcases List.mem_cons.mp h with rfl | h
      · decide
      · exact isNumeric_of_mem_toDigits h
    · exact isNumeric_of_mem_toDigits h

theorem isNumeric_of_mem_scientific {d : Decimal} {c : Char} (h : c ∈ d.scientific) :
    isNumeric c = true := by
  have hdigits : ∀ c ∈ d.digitText, isNumeric c = true := fun c hc ↦ isNumeric_of_mem_toDigits hc
  unfold scientific at h
  split at h
  · cases h
  · rename_i a rest hds
    rw [hds] at hdigits
    rcases List.mem_append.mp h with h | h
    · rcases List.mem_cons.mp h with rfl | h
      · exact hdigits c (by simp)
      · split at h
        · cases h
        · rcases List.mem_cons.mp h with rfl | h
          · decide
          · exact hdigits c (by simp [h])
    · exact isNumeric_of_mem_exponentText h

theorem isNumeric_of_mem_unsignedText {d : Decimal} {c : Char} (h : c ∈ unsignedText d) :
    isNumeric c = true := by
  unfold unsignedText at h
  split at h
  · exact isNumeric_of_mem_positional h
  · exact isNumeric_of_mem_scientific h

/-- A float is always written with a point or an exponent, so it is never taken for an integer. -/
theorem exists_floatMark_unsignedText (d : Decimal) :
    ∃ c ∈ unsignedText d, isFloatMark c = true := by
  unfold unsignedText
  split
  · refine ⟨'.', ?_, by decide⟩
    unfold positional
    simp only
    split
    · simp
    · split <;> simp
  · refine ⟨'e', ?_, by decide⟩
    unfold scientific
    split
    · rename_i hds
      exact absurd hds d.digitText_ne_nil
    · simp [exponentText]

end MapStyle.Json
