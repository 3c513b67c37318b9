import Std.Data.String.ToInt
import MapStyle.Expr.Eval
import MapStyle.Proofs.Decimal.Value

/-!
# Whole numbers as texts and in JSON

A number that is an integer is held within the signed 64-bit integers when it is written. The bound
below which it is written so is `10 ^ 21` for texts, where integers beyond the 64 bits are all given
by the last one within, and so have one text in joined texts, as results of `String` and as keys of
members. In JSON the bound is `2 ^ 63`, which is itself the only integer that is not kept.
-/

namespace MapStyle

namespace Json.Number

/-- The rational number that a JSON number is. -/
def value : Number → ℚ
  | int n => n
  | float x => Binary64.value x

end Json.Number

open Binary64

/-! ## The bounds -/

theorem represents_textBound : Represents 1e21 (10 ^ 21) := represents_iff.mpr (by decide)

theorem represents_jsonBound : Represents 9223372036854775808.0 (2 ^ 63) :=
  represents_iff.mpr (by decide)

namespace Binary64

variable {n k : ℤ}

theorem clampInt64_eq_self_iff : clampInt64 n = n ↔ -2 ^ 63 ≤ n ∧ n < 2 ^ 63 := by
  simp only [clampInt64, minInt64, maxInt64]
  omega

/-- Different integers are held at one only if both lie beyond the same end. -/
theorem clampInt64_eq_iff (hne : n ≠ k) : clampInt64 n = clampInt64 k ↔
    (2 ^ 63 - 1 ≤ n ∧ 2 ^ 63 - 1 ≤ k) ∨ (n ≤ -2 ^ 63 ∧ k ≤ -2 ^ 63) := by
  simp only [clampInt64, minInt64, maxInt64]
  omega

theorem clampInt64_eq_self_iff_of_abs_le (h : |n| ≤ 2 ^ 63) : clampInt64 n = n ↔ n ≠ 2 ^ 63 := by
  obtain ⟨hlow, hhigh⟩ := abs_le.mp h
  rw [clampInt64_eq_self_iff]
  omega

namespace Represents

variable {x : Float}

theorem toInt64_eq (h : Represents x n) : toInt64 x = clampInt64 n := by
  rw [toInt64, h.truncate_eq]

/-- The text of an integer below the bound is that of the nearest signed 64-bit integer. -/
theorem text_eq (h : Represents x n) (hn : |n| < 10 ^ 21) :
    (Value.number x).text = toString (clampInt64 n) := by
  have hbound : x.abs < 1e21 := (h.abs_lt_iff represents_textBound).mpr hn
  have hwritten : (Binary64.isWhole x && x.abs < 1e21) = true :=
    Bool.and_eq_true_iff.mpr ⟨h.isWhole, decide_eq_true hbound⟩
  rw [Value.text, Value.numberText, if_neg (Bool.eq_false_iff.mp (isNaN_eq_false h.isFinite)),
    if_neg (Bool.eq_false_iff.mp (isInf_eq_false h.isFinite)), if_pos hwritten, h.toInt64_eq]

/-- The form of an integer in JSON is a number. -/
theorem toJson?_eq (h : Represents x n) : (Value.number x).toJson? = some
    (.number (if |n| ≤ 2 ^ 63 then .int (clampInt64 n) else .float x)) := by
  have hbound := h.abs_le_iff represents_jsonBound
  rw [Value.toJson?, Json.ofFloat, if_pos h.isFinite, Json.Number.ofFloat]
  by_cases hn : |n| ≤ 2 ^ 63
  · rw [if_pos (by simp [h.isWhole, hbound.mpr hn]), if_pos hn, h.toInt64_eq]
  · rw [if_neg (by simp [mt hbound.mp hn]), if_neg hn]

end Represents

end Binary64

/-! ## Where texts are made of numbers -/

namespace Expr

variable {v w : Value}

theorem add_string_eq_iff (s : String) :
    add (.string s) v = add (.string s) w ↔ v.text = w.text := by
  simp [add]

theorem add_number_string_eq_iff {x y : Float} (s : String) :
    add (.number x) (.string s) = add (.number y) (.string s)
      ↔ (Value.number x).text = (Value.number y).text := by
  simp [add]

theorem callFunction_string (site : List ℕ) :
    callFunction site "String" [v] = .ok (.string v.text) := rfl

theorem callFunction_string_eq_iff (site : List ℕ) :
    callFunction site "String" [v] = callFunction site "String" [w] ↔ v.text = w.text := by
  simp [callFunction_string]

/-- Keys of one text find the same members, and keys of different texts do not. -/
theorem memberOf_object_eq_iff :
    (∀ members, memberOf (.object members) v = memberOf (.object members) w)
      ↔ v.text = w.text := by
  refine ⟨fun h ↦ ?_, fun h members ↦ by simp [memberOf, property, h]⟩
  by_contra hne
  have hfound := h [(v.text, .null)]
  simp [memberOf, property, Table.get?, hne, Value.ofJson] at hfound

end Expr

namespace Binary64

open MapStyle.Expr

/-- A number that is an integer of absolute value below `10 ^ 21` is written as the nearest signed
64-bit integer, so exactly only if it is one of these. Two such integers look alike, wherever texts
are made of them, exactly if they lie beyond the same end of the 64-bit integers. The form of an
integer in JSON is a number, which is the integer itself unless that is `2 ^ 63`. -/
theorem whole_written_iff {x : Float} {n : ℤ} (h : Represents x n) :
    (|n| < 10 ^ 21 → (Value.number x).text = toString (clampInt64 n) ∧
      ((Value.number x).text = toString n ↔ -2 ^ 63 ≤ n ∧ n < 2 ^ 63)) ∧
    (∀ y k, Represents y k → |n| < 10 ^ 21 → |k| < 10 ^ 21 → n ≠ k →
      let beyond := (2 ^ 63 - 1 ≤ n ∧ 2 ^ 63 - 1 ≤ k) ∨ (n ≤ -2 ^ 63 ∧ k ≤ -2 ^ 63)
      (∀ s, add (.string s) (.number x) = add (.string s) (.number y) ↔ beyond) ∧
      (∀ s, add (.number x) (.string s) = add (.number y) (.string s) ↔ beyond) ∧
      (∀ site, callFunction site "String" [.number x] = callFunction site "String" [.number y]
        ↔ beyond) ∧
      ((∀ members, memberOf (.object members) (.number x) = memberOf (.object members) (.number y))
        ↔ beyond)) ∧
    ∃ number, (Value.number x).toJson? = some (.number number) ∧
      (number.value = n ↔ n ≠ 2 ^ 63) := by
  refine ⟨fun hn ↦ ⟨h.text_eq hn, ?_⟩, ?_, _, h.toJson?_eq, ?_⟩
  · rw [h.text_eq hn, ← clampInt64_eq_self_iff]
    exact Int.repr_inj
  · intro y k hk hn hkbound hne beyond
    have halike : (Value.number x).text = (Value.number y).text ↔ beyond := by
      rw [h.text_eq hn, hk.text_eq hkbound]
      exact Int.repr_inj.trans (clampInt64_eq_iff hne)
    exact ⟨fun s ↦ (add_string_eq_iff s).trans halike,
      fun s ↦ (add_number_string_eq_iff s).trans halike,
      fun site ↦ (callFunction_string_eq_iff site).trans halike,
      memberOf_object_eq_iff.trans halike⟩
  · split
    · rename_i hn
      rw [Json.Number.value, Int.cast_inj]
      exact clampInt64_eq_self_iff_of_abs_le hn
    · rename_i hn
      refine iff_of_true h.value_eq ?_
      rintro rfl
      exact hn (by norm_num)

theorem million_written :
    (Value.number 1e6).text = "1000000" ∧
    callFunction [] "String" [.number 1e6] ≠ callFunction [] "String" [.number 1e20] ∧
    ∃ number, (Value.number 1e6).toJson? = some (.number number) ∧
      number.value = (10 ^ 6 : ℤ) := by
  have h : Represents 1e6 (10 ^ 6) := represents_iff.mpr (by decide)
  have h' : Represents 1e20 (10 ^ 20) := represents_iff.mpr (by decide)
  obtain ⟨htext, halike, number, hjson, hvalue⟩ := whole_written_iff h
  obtain ⟨-, -, hcalled, -⟩ := halike 1e20 (10 ^ 20) h' (by decide) (by decide) (by decide)
  exact ⟨(htext (by decide)).1, mt (hcalled []).mp (by decide), number, hjson,
    hvalue.mpr (by decide)⟩

/-- The text of ten to the power of 20 is that of the greatest signed 64-bit integer, and so is that
of ten to the power of 19. In JSON `2 ^ 63` becomes that integer too. -/
theorem huge_not_exact :
    (Represents 1e20 (10 ^ 20) ∧ (Value.number 1e20).text = "9223372036854775807" ∧
      (Value.number 1e20).text ≠ toString (10 ^ 20 : ℤ)) ∧
    (Represents 1e19 (10 ^ 19) ∧
      add (.string "") (.number 1e19) = add (.string "") (.number 1e20)) ∧
    Represents 9223372036854775808.0 (2 ^ 63) ∧
      (Value.number 9223372036854775808.0).toJson? = some (.int (2 ^ 63 - 1)) := by
  have h : Represents 1e20 (10 ^ 20) := represents_iff.mpr (by decide)
  have h' : Represents 1e19 (10 ^ 19) := represents_iff.mpr (by decide)
  have htext : (Value.number 1e20).text = "9223372036854775807" := h.text_eq (by decide)
  refine ⟨⟨h, htext, ?_⟩, ⟨h', ?_⟩, represents_jsonBound, represents_jsonBound.toJson?_eq⟩
  · rw [htext]
    decide
  · exact (add_string_eq_iff _).mpr ((h'.text_eq (by decide)).trans htext.symm)

end Binary64

end MapStyle
