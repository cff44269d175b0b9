/-
  Numbers with a fixed number of decimals (`Number.prototype.toFixed`), and texts that are a
  numeral.

  A text of a numeral is read as its value (`numberOf_text`, `parseFloat_text`), and so is a number
  that was written with enough decimals (`numberOf_toFixed`).
-/
import AX10M.Js.Number
import AX10M.Js.Numeral
import Mathlib.Data.List.TakeWhile
import Mathlib.Tactic.Positivity

namespace Js

/-! ## Texts that are a numeral -/

theorem isSpace_of_isDigit {c : Char} (h : c.isDigit) : isSpace c = false := by
  simp only [Char.isDigit, Bool.and_eq_true, decide_eq_true_eq] at h
  have hlo : 48 ≤ c.toNat := h.1
  have hhi : c.toNat ≤ 57 := h.2
  simp only [isSpace, List.contains_cons, List.contains_nil, Bool.or_false, Bool.or_eq_false_iff,
    Bool.and_eq_false_iff, decide_eq_false_iff_not, beq_eq_false_iff_ne]
  omega

/-- What has no white space is not trimmed. -/
theorem trimList_of {cs : List Char} (h : ∀ c ∈ cs, isSpace c = false) : trimList cs = cs := by
  have hdrop : ∀ ds : List Char, (∀ c ∈ ds, isSpace c = false) → ds.dropWhile isSpace = ds := by
    intro ds hds
    cases ds with
    | nil => rfl
    | cons c ds => rw [List.dropWhile_cons, hds c List.mem_cons_self, if_neg Bool.false_ne_true]
  have hreverse : ∀ c ∈ cs.reverse, isSpace c = false := by
    intro c hc
    exact h c (List.mem_reverse.1 hc)
  rw [trimList, hdrop cs h, hdrop _ hreverse, List.reverse_reverse]

/-- What trimming leaves of a text that is not blank. -/
theorem trimList_ne_nil {cs : List Char} {c : Char} (hc : c ∈ cs) (hs : isSpace c = false) :
    trimList cs ≠ [] := by
  intro h
  rw [trimList, List.reverse_eq_nil_iff, List.dropWhile_eq_nil_iff] at h
  cases hd : cs.dropWhile isSpace with
  | nil =>
    rw [List.dropWhile_eq_nil_iff] at hd
    rw [hd c hc] at hs
    cases hs
  | cons d ds =>
    have hhead := List.head?_dropWhile_not isSpace cs
    rw [hd] at hhead h
    have hspace := h d (by simp)
    rw [show isSpace d = false from hhead] at hspace
    cases hspace

/-- A text that starts with a number, and has nothing after it. -/
theorem numberOf_ofList {cs : List Char} {x : ℚ} (hspace : ∀ c ∈ cs, isSpace c = false)
    (h : decimalPrefix cs = some (x, [])) : numberOf (String.ofList cs) = some x := by
  have hne : cs ≠ [] := by
    rintro rfl
    cases h
  obtain ⟨c, ds, rfl⟩ := List.exists_cons_of_ne_nil hne
  rw [numberOf, String.toList_ofList, trimList_of hspace]
  simp only [h]

theorem parseFloat_ofList {cs rest : List Char} {x : ℚ} (hspace : ∀ c ∈ cs, isSpace c = false)
    (h : decimalPrefix cs = some (x, rest)) : parseFloat (String.ofList cs) = some x := by
  have hdrop : cs.dropWhile isSpace = cs := by
    cases cs with
    | nil => rfl
    | cons c ds => rw [List.dropWhile_cons, hspace c List.mem_cons_self, if_neg Bool.false_ne_true]
  rw [parseFloat, String.toList_ofList, hdrop, h, Option.map_some]

/-- The sign of a number. -/
def signText (negative : Bool) : List Char := if negative then ['-'] else []

/-- A number with a sign. -/
def signed (negative : Bool) (x : ℚ) : ℚ := if negative then -x else x

namespace Numeral

variable {a : Numeral} (ha : a.WF) (negative : Bool)

include ha

theorem isSpace_text : ∀ c ∈ signText negative ++ a.text, isSpace c = false := by
  have hdigits : ∀ n : ℕ, ∀ c ∈ Nat.toDigits 10 n, isSpace c = false :=
    fun n c hc => isSpace_of_isDigit (isDigit_toDigits hc)
  intro c hc
  rcases List.mem_append.1 hc with hc | hc
  · cases negative with
    | true => rw [List.mem_singleton.1 hc]; rfl
    | false => cases hc
  · rw [text, List.mem_append, List.mem_append] at hc
    rcases hc with (hc | hc) | hc
    · exact isSpace_of_isDigit (ha.whole c hc)
    · unfold fractionText at hc
      split_ifs at hc
      · cases hc
      · rcases List.mem_cons.1 hc with rfl | hc
        · rfl
        · exact isSpace_of_isDigit (ha.fraction c hc)
    · unfold exponentText at hc
      split_ifs at hc with hzero hneg
      · cases hc
      · rcases List.mem_cons.1 hc with rfl | hc
        · rfl
        · rcases List.mem_cons.1 hc with rfl | hc
          · rfl
          · exact hdigits _ c hc
      · rcases List.mem_cons.1 hc with rfl | hc
        · rfl
        · rcases List.mem_cons.1 hc with rfl | hc
          · rfl
          · exact hdigits _ c hc

theorem decimalPrefix_signed :
    decimalPrefix (signText negative ++ a.text) = some (signed negative a.value, []) := by
  have h := decimalPrefix_text ha negative ends_nil
  rw [List.append_nil] at h
  exact h

/-- A numeral with a sign is read as its value. -/
theorem numberOf_text : numberOf (String.ofList (signText negative ++ a.text)) =
    some (signed negative a.value) :=
  numberOf_ofList (isSpace_text ha negative) (decimalPrefix_signed ha negative)

theorem parseFloat_text : parseFloat (String.ofList (signText negative ++ a.text)) =
    some (signed negative a.value) :=
  parseFloat_ofList (isSpace_text ha negative) (decimalPrefix_signed ha negative)

end Numeral

theorem numberOf_numberText {x : ℚ} (h : IsDecimal x) :
    numberOf (String.ofList (numberText x)) = some x := by
  have hread := decimalPrefix_numberText h ends_nil
  rw [List.append_nil] at hread
  refine numberOf_ofList ?_ hread
  unfold numberText
  by_cases h0 : x = 0
  · rw [if_pos h0]
    intro c hc
    rw [List.mem_singleton.1 hc]
    rfl
  · have hne : (significand x).1 ≠ [] := toDigits_ne_nil _
    have hwf := numeral_wf hne (fun c hc => isDigit_toDigits hc) (significand x).2
    have hspace := Numeral.isSpace_text hwf (decide (x < 0))
    simp only [signText, decide_eq_true_eq] at hspace
    rw [if_neg h0]
    exact hspace

/-! ## A fixed number of decimals -/

/-- The numeral of `n` units of the last of `d` decimals. -/
def fixedNumeral (d n : ℕ) : Numeral :=
  let digits := List.replicate (d + 1 - (Nat.toDigits 10 n).length) '0' ++ Nat.toDigits 10 n
  { whole := digits.take (digits.length - d), fraction := digits.drop (digits.length - d) }

/-- A number with `d` decimals (`toFixed`), from `10 ^ 21` on as its text. -/
def toFixed (d : ℕ) (x : ℚ) : String :=
  if 10 ^ 21 ≤ |x| then String.ofList (numberText x)
  else String.ofList (signText (decide (x < 0)) ++
    (fixedNumeral d (round (|x| * 10 ^ d)).toNat).text)

variable (d n : ℕ)

theorem length_fixedDigits : d + 1 ≤
    (List.replicate (d + 1 - (Nat.toDigits 10 n).length) '0' ++ Nat.toDigits 10 n).length := by
  rw [List.length_append, List.length_replicate]
  omega

theorem fixedNumeral_wf : (fixedNumeral d n).WF := by
  have hlength := length_fixedDigits d n
  have hdigits : ∀ c ∈ List.replicate (d + 1 - (Nat.toDigits 10 n).length) '0' ++
      Nat.toDigits 10 n, c.isDigit := by
    intro c hc
    rcases List.mem_append.1 hc with hc | hc
    · rw [(List.mem_replicate.1 hc).2]
      rfl
    · exact isDigit_toDigits hc
  refine ⟨?_, ?_, ?_⟩
  · intro h
    have h := congrArg List.length h
    simp only [fixedNumeral, List.length_take, List.length_nil] at h
    omega
  · intro c hc
    exact hdigits c (List.mem_of_mem_take hc)
  · intro c hc
    exact hdigits c (List.mem_of_mem_drop hc)

theorem fixedNumeral_value : (fixedNumeral d n).value = n / 10 ^ d := by
  have hlength := length_fixedDigits d n
  simp only [Numeral.value, fixedNumeral, List.take_append_drop, digitsValue_append,
    digitsValue_zeros, digitsValue_toDigits, zero_mul, zero_add, List.length_drop]
  rw [scale_eq, Nat.sub_sub_self (by omega), zero_sub, zpow_neg, zpow_natCast, div_eq_mul_inv]

/-- A number with no more than `d` decimals is read back. -/
theorem numberOf_toFixed (m : ℤ) : numberOf (toFixed d (m / 10 ^ d)) = some ((m : ℚ) / 10 ^ d) := by
  have hpow : (0 : ℚ) < 10 ^ d := by positivity
  unfold toFixed
  split_ifs with hlarge
  · have hdecimal := isDecimal_div m d
    push_cast at hdecimal
    exact numberOf_numberText hdecimal
  · have hround : (round (|(m : ℚ) / 10 ^ d| * 10 ^ d)).toNat = m.natAbs := by
      have habs : |(m : ℚ) / 10 ^ d| * 10 ^ d = (m.natAbs : ℤ) := by
        rw [abs_div, abs_of_pos hpow, div_mul_cancel₀ _ hpow.ne', Int.natCast_natAbs,
          Int.cast_abs]
      rw [habs, round_intCast, Int.toNat_natCast]
    rw [hround, Numeral.numberOf_text (fixedNumeral_wf d m.natAbs), fixedNumeral_value]
    have hsign : (m : ℚ) / 10 ^ d < 0 ↔ m < 0 := by
      rw [div_neg_iff, Int.cast_lt_zero]
      constructor
      · rintro (⟨-, h⟩ | ⟨h, -⟩)
        · exact absurd hpow (not_lt.2 h.le)
        · exact h
      · intro h
        exact .inr ⟨h, hpow⟩
    rw [Nat.cast_natAbs, Int.cast_abs]
    by_cases hneg : m < 0
    · rw [decide_eq_true (hsign.2 hneg), abs_of_neg (Int.cast_lt_zero.2 hneg)]
      simp only [signed, if_true, neg_div, neg_neg]
    · rw [decide_eq_false (mt hsign.1 hneg), abs_of_nonneg (by exact_mod_cast not_lt.1 hneg)]
      rfl

end Js
