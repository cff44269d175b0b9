/-
  The decimal text of a number (`Number.prototype.toString`).

  A number of the language stands for its shortest decimal, so that the numbers with a text are the
  finite decimals.  `decimalPrefix_numberText`: the number is read back from its text, whatever
  follows that does not go on with it.
-/
import AX10M.Js.Number
import Mathlib.Data.Nat.Factorization.Basic
import Mathlib.Tactic.FieldSimp
import Mathlib.Tactic.Ring

namespace Js

/-! ## Digits -/

theorem foldl_digits (cs : List Char) (n : ℕ) :
    cs.foldl (fun n c => n * 10 + (c.toNat - '0'.toNat)) n =
      n * 10 ^ cs.length + digitsValue cs := by
  induction cs generalizing n with
  | nil => simp [digitsValue]
  | cons c cs ih =>
    have hc : digitsValue (c :: cs) =
        (0 * 10 + (c.toNat - '0'.toNat)) * 10 ^ cs.length + digitsValue cs := ih _
    rw [List.foldl_cons, ih, hc, List.length_cons]
    ring

theorem digitsValue_append (cs ds : List Char) :
    digitsValue (cs ++ ds) = digitsValue cs * 10 ^ ds.length + digitsValue ds := by
  rw [digitsValue, List.foldl_append, foldl_digits]
  rfl

theorem digitsValue_zeros (n : ℕ) : digitsValue (List.replicate n '0') = 0 := by
  induction n with
  | zero => rfl
  | succ n ih =>
    rw [List.replicate_succ, ← List.singleton_append, digitsValue_append, ih]
    simp [digitsValue]

theorem digitChar_value : ∀ d < 10, digitsValue [Nat.digitChar d] = d := by decide

theorem digitsValue_toDigits (n : ℕ) : digitsValue (Nat.toDigits 10 n) = n := by
  induction n using Nat.strong_induction_on with
  | _ n ih =>
    rw [Nat.toDigits_eq_if (by decide)]
    split_ifs with h
    · exact digitChar_value n h
    · rw [digitsValue_append, ih (n / 10) (by omega), digitChar_value _ (by omega)]
      simp only [List.length_singleton, pow_one]
      omega

theorem isDigit_toDigits {n : ℕ} {c : Char} (h : c ∈ Nat.toDigits 10 n) : c.isDigit :=
  Nat.isDigit_of_mem_toDigits (by decide) (by decide) h

theorem toDigits_ne_nil (n : ℕ) : Nat.toDigits 10 n ≠ [] := by
  rw [Nat.toDigits_eq_if (by decide)]
  split_ifs <;> simp

/-! ## Numerals -/

/-- A decimal numeral: digits, perhaps a fraction, perhaps an exponent. -/
structure Numeral where
  whole : List Char
  fraction : List Char := []
  exponent : ℤ := 0

namespace Numeral

/-- The fraction with its point. -/
def fractionText (a : Numeral) : List Char := if a.fraction = [] then [] else '.' :: a.fraction

/-- The exponent with its sign. -/
def exponentText (a : Numeral) : List Char :=
  if a.exponent = 0 then []
  else 'e' :: (if a.exponent < 0 then '-' else '+') :: Nat.toDigits 10 a.exponent.natAbs

def text (a : Numeral) : List Char := a.whole ++ a.fractionText ++ a.exponentText

def value (a : Numeral) : ℚ :=
  scale (digitsValue (a.whole ++ a.fraction)) (a.exponent - a.fraction.length)

/-- The numeral is made of digits, and has some before the point. -/
structure WF (a : Numeral) : Prop where
  nonempty : a.whole ≠ []
  whole : ∀ c ∈ a.whole, c.isDigit
  fraction : ∀ c ∈ a.fraction, c.isDigit

end Numeral

/-- The text does not go on with a number. -/
def Ends (rest : List Char) : Prop :=
  ∀ c ∈ rest.head?, ¬ c.isDigit ∧ c ≠ '.' ∧ c ≠ 'e' ∧ c ≠ 'E'

theorem ends_nil : Ends [] := by
  intro c hc
  cases hc

/-- Digits before a character that is none are taken, and the rest is left. -/
theorem takeWhile_digits {ds rest : List Char} (hd : ∀ c ∈ ds, c.isDigit)
    (hr : ∀ c ∈ rest.head?, ¬ c.isDigit) :
    (ds ++ rest).takeWhile Char.isDigit = ds ∧ (ds ++ rest).dropWhile Char.isDigit = rest := by
  induction ds with
  | nil =>
    cases rest with
    | nil => exact ⟨rfl, rfl⟩
    | cons c rest => simp [hr c rfl]
  | cons c ds ih =>
    have hc : c.isDigit := hd c (List.mem_cons_self ..)
    obtain ⟨ht, hdrop⟩ := ih fun d hmem => hd d (List.mem_cons_of_mem _ hmem)
    simp [hc, ht, hdrop]

namespace Numeral

theorem exponentText_head (a : Numeral) {rest : List Char} (hr : Ends rest) :
    ∀ c ∈ (a.exponentText ++ rest).head?, ¬ c.isDigit ∧ c ≠ '.' := by
  intro c hc
  unfold exponentText at hc
  split_ifs at hc with h
  · exact ⟨(hr c hc).1, (hr c hc).2.1⟩
  · obtain rfl : 'e' = c := Option.some.inj hc
    decide
  · obtain rfl : 'e' = c := Option.some.inj hc
    decide

theorem fractionText_head (a : Numeral) {rest : List Char} (hr : Ends rest) :
    ∀ c ∈ (a.fractionText ++ (a.exponentText ++ rest)).head?, ¬ c.isDigit := by
  intro c hc
  unfold fractionText at hc
  split_ifs at hc with h
  · exact (a.exponentText_head hr c hc).1
  · obtain rfl : '.' = c := Option.some.inj hc
    decide

theorem fractionOf_text {a : Numeral} (ha : a.WF) {rest : List Char} (hr : Ends rest) :
    fractionOf (a.fractionText ++ (a.exponentText ++ rest)) =
      (a.fraction, a.exponentText ++ rest) := by
  have hhead := a.exponentText_head hr
  unfold fractionText
  split_ifs with h
  · rw [h, List.nil_append]
    cases hrest : a.exponentText ++ rest with
    | nil => rfl
    | cons c cs =>
      rw [hrest] at hhead
      have hc := (hhead c rfl).2
      unfold fractionOf
      split <;> simp_all
  · obtain ⟨ht, hd⟩ := takeWhile_digits ha.fraction fun c hc => (hhead c hc).1
    rw [List.cons_append, fractionOf, ht, hd]

theorem exponentOf_text (a : Numeral) {rest : List Char} (hr : Ends rest) :
    exponentOf (a.exponentText ++ rest) = (a.exponent, rest) := by
  unfold exponentText
  by_cases h0 : a.exponent = 0
  · rw [if_pos h0, h0, List.nil_append]
    cases rest with
    | nil => rfl
    | cons c cs =>
      obtain ⟨-, -, he, hE⟩ := hr c rfl
      simp [exponentOf, he, hE]
  · have hdigits : ∀ c ∈ Nat.toDigits 10 a.exponent.natAbs, c.isDigit := fun c => isDigit_toDigits
    obtain ⟨ht, hd⟩ := takeWhile_digits hdigits fun c hc => (hr c hc).1
    have hne := toDigits_ne_nil a.exponent.natAbs
    rw [if_neg h0]
    by_cases hneg : a.exponent < 0
    · have habs : |a.exponent| = -a.exponent := abs_of_neg hneg
      simp [exponentOf, signOf, hneg, ht, hd, hne, digitsValue_toDigits, habs]
    · have habs : |a.exponent| = a.exponent := abs_of_nonneg (not_lt.1 hneg)
      simp [exponentOf, signOf, hneg, ht, hd, hne, digitsValue_toDigits, habs]

theorem signOf_text {a : Numeral} (ha : a.WF) (negative : Bool) (rest : List Char) :
    signOf ((if negative then ['-'] else []) ++ (a.whole ++ rest)) =
      (negative, a.whole ++ rest) := by
  cases negative with
  | true => rfl
  | false =>
    obtain ⟨c, cs, hw⟩ := List.exists_cons_of_ne_nil ha.nonempty
    have hc := ha.whole c (by simp [hw])
    rw [hw]
    show signOf (c :: (cs ++ rest)) = _
    unfold signOf
    split
    · next h =>
      obtain ⟨rfl, -⟩ := List.cons.inj h
      exact absurd hc (by decide)
    · next h =>
      obtain ⟨rfl, -⟩ := List.cons.inj h
      exact absurd hc (by decide)
    · rfl

/-- A numeral is read back, whatever follows that does not go on with it. -/
theorem decimalPrefix_text {a : Numeral} (ha : a.WF) (negative : Bool) {rest : List Char}
    (hr : Ends rest) :
    decimalPrefix ((if negative then ['-'] else []) ++ (a.text ++ rest)) =
      some (if negative then -a.value else a.value, rest) := by
  have htext : a.text ++ rest = a.whole ++ (a.fractionText ++ (a.exponentText ++ rest)) := by
    rw [text, List.append_assoc, List.append_assoc]
  have hsign := signOf_text ha negative (a.fractionText ++ (a.exponentText ++ rest))
  obtain ⟨ht, hd⟩ := takeWhile_digits ha.whole (a.fractionText_head hr)
  rw [htext]
  simp only [decimalPrefix, hsign, ht, hd, fractionOf_text ha hr, exponentOf_text a hr,
    ha.nonempty, false_and, if_false]
  rfl

end Numeral

/-! ## The numeral of a number -/

/-- The numeral of a number of digits whose point is after `n` of them. -/
def numeral (digits : List Char) (n : ℤ) : Numeral :=
  if (digits.length : ℤ) ≤ n ∧ n ≤ 21 then
    { whole := digits ++ List.replicate (n - digits.length).toNat '0' }
  else if 0 < n ∧ n ≤ 21 then
    { whole := digits.take n.toNat, fraction := digits.drop n.toNat }
  else if -6 < n ∧ n ≤ 0 then
    { whole := ['0'], fraction := List.replicate (-n).toNat '0' ++ digits }
  else { whole := digits.take 1, fraction := digits.drop 1, exponent := n - 1 }

theorem scale_eq (x : ℚ) (z : ℤ) : scale x z = x * (10 : ℚ) ^ z := by
  cases z with
  | ofNat n => simp [scale]
  | negSucc n => simp [scale, zpow_negSucc, div_eq_mul_inv]

theorem numeral_wf {digits : List Char} (h : digits ≠ []) (hd : ∀ c ∈ digits, c.isDigit) (n : ℤ) :
    (numeral digits n).WF := by
  have hzero : ∀ m : ℕ, ∀ c ∈ List.replicate m '0', c.isDigit := by
    intro m c hc
    rw [(List.mem_replicate.1 hc).2]
    rfl
  have htake : ∀ m, ∀ c ∈ digits.take m, c.isDigit := fun m c hc => hd c (List.mem_of_mem_take hc)
  have hdrop : ∀ m, ∀ c ∈ digits.drop m, c.isDigit := fun m c hc => hd c (List.mem_of_mem_drop hc)
  unfold numeral
  split_ifs with h₁ h₂ h₃
  · refine ⟨by simp [h], fun c hc => ?_, fun c hc => absurd hc List.not_mem_nil⟩
    rcases List.mem_append.1 hc with hc | hc
    · exact hd c hc
    · exact hzero _ c hc
  · refine ⟨?_, htake _, hdrop _⟩
    simp only [ne_eq, List.take_eq_nil_iff, h, or_false]
    omega
  · refine ⟨by simp, fun c hc => ?_, fun c hc => ?_⟩
    · rw [List.mem_singleton.1 hc]
      rfl
    · rcases List.mem_append.1 hc with hc | hc
      · exact hzero _ c hc
      · exact hd c hc
  · refine ⟨?_, htake _, hdrop _⟩
    simp [h]

/-- The numeral has the value that its digits have with the point after `n` of them. -/
theorem numeral_value (digits : List Char) (n : ℤ) :
    (numeral digits n).value = digitsValue digits * (10 : ℚ) ^ (n - digits.length) := by
  unfold numeral
  split_ifs with h₁ h₂ h₃
  · have hexp : n - digits.length = ((n - digits.length).toNat : ℤ) := by omega
    simp only [Numeral.value, List.append_nil, scale_eq, digitsValue_append, digitsValue_zeros,
      List.length_replicate, add_zero, List.length_nil, Nat.cast_zero, sub_zero, zpow_zero,
      mul_one]
    rw [hexp, zpow_natCast]
    push_cast
    simp
  · have hlen : (0 : ℤ) - ((digits.drop n.toNat).length : ℤ) = n - digits.length := by
      rw [List.length_drop]
      omega
    rw [Numeral.value, List.take_append_drop, scale_eq, hlen]
  · have hlen : (0 : ℤ) - ((List.replicate (-n).toNat '0' ++ digits).length : ℤ) =
        n - digits.length := by
      rw [List.length_append, List.length_replicate]
      omega
    have hvalue : digitsValue (['0'] ++ (List.replicate (-n).toNat '0' ++ digits)) =
        digitsValue digits := by
      rw [digitsValue_append, digitsValue_append, digitsValue_zeros]
      simp [digitsValue]
    rw [Numeral.value, hvalue, scale_eq, hlen]
  · rw [Numeral.value, List.take_append_drop, scale_eq]
    cases digits with
    | nil => simp [digitsValue]
    | cons c cs =>
      have hlen : n - 1 - (((c :: cs).drop 1).length : ℤ) = n - ((c :: cs).length : ℤ) := by
        simp only [List.drop_succ_cons, List.drop_zero, List.length_cons]
        omega
      rw [hlen]

/-- The number is a finite decimal. -/
def IsDecimal (x : ℚ) : Prop := x.den ∣ 10 ^ Nat.log2 x.den

instance (x : ℚ) : Decidable (IsDecimal x) :=
  inferInstanceAs (Decidable (x.den ∣ 10 ^ Nat.log2 x.den))

/-- The digits without the zeros at their end, and the exponent that makes up for them. -/
def stripZeros : ℕ → ℕ → ℤ → ℕ × ℤ
  | 0, s, z => (s, z)
  | fuel + 1, s, z => if s % 10 = 0 then stripZeros fuel (s / 10) (z + 1) else (s, z)

/-- The significant digits of a number, and how many of them are before the point. -/
def significand (x : ℚ) : List Char × ℤ :=
  let scaled := x.num.natAbs * (10 ^ Nat.log2 x.den / x.den)
  let (s, z) := stripZeros (Nat.toDigits 10 scaled).length scaled (-(Nat.log2 x.den : ℤ))
  (Nat.toDigits 10 s, (Nat.toDigits 10 s).length + z)

/-- The text of a number. -/
def numberText (x : ℚ) : List Char :=
  if x = 0 then ['0']
  else
    let (digits, n) := significand x
    (if x < 0 then ['-'] else []) ++ (numeral digits n).text

theorem stripZeros_value (fuel s : ℕ) (z : ℤ) :
    ((stripZeros fuel s z).1 : ℚ) * (10 : ℚ) ^ (stripZeros fuel s z).2 = s * (10 : ℚ) ^ z := by
  induction fuel generalizing s z with
  | zero => rfl
  | succ fuel ih =>
    unfold stripZeros
    split_ifs with h
    · rw [ih, zpow_add₀ (by norm_num), zpow_one]
      have hs : ((s / 10 : ℕ) : ℚ) * 10 = s := by
        have hdvd : s / 10 * 10 = s := Nat.div_mul_cancel (Nat.dvd_of_mod_eq_zero h)
        exact_mod_cast hdvd
      rw [mul_comm ((10 : ℚ) ^ z), ← mul_assoc, hs]
    · rfl

/-- The significant digits of a finite decimal have its absolute value. -/
theorem significand_value {x : ℚ} (h : IsDecimal x) :
    (digitsValue (significand x).1 : ℚ) *
      (10 : ℚ) ^ ((significand x).2 - (significand x).1.length) = |x| := by
  obtain ⟨q, hq⟩ := h
  have hden : (x.den : ℚ) ≠ 0 := by exact_mod_cast x.den_nz
  have hquot : 10 ^ Nat.log2 x.den / x.den = q := by
    rw [hq, Nat.mul_div_cancel_left _ x.den_pos]
  have hpow : (10 : ℚ) ^ Nat.log2 x.den = x.den * q := by exact_mod_cast hq
  have hpow_ne : (10 : ℚ) ^ Nat.log2 x.den ≠ 0 := by positivity
  have habs : |x| = (x.num.natAbs : ℚ) / x.den := by
    have hx : x = (x.num : ℚ) / x.den := (Rat.num_div_den x).symm
    have hnum : |(x.num : ℚ)| = (x.num.natAbs : ℚ) := by
      rw [Nat.cast_natAbs, Int.cast_abs]
    calc |x| = |(x.num : ℚ) / x.den| := by rw [← hx]
      _ = (x.num.natAbs : ℚ) / x.den := by rw [abs_div, hnum, Nat.abs_cast]
  simp only [significand, digitsValue_toDigits, add_sub_cancel_left, stripZeros_value, hquot]
  have hq_ne : (q : ℚ) ≠ 0 := by
    rintro h0
    rw [h0, mul_zero] at hpow
    exact hpow_ne hpow
  rw [zpow_neg, zpow_natCast, hpow, habs]
  push_cast
  field_simp

/-- A finite decimal is read back from its text. -/
theorem decimalPrefix_numberText {x : ℚ} (h : IsDecimal x) {rest : List Char} (hr : Ends rest) :
    decimalPrefix (numberText x ++ rest) = some (x, rest) := by
  unfold numberText
  by_cases h0 : x = 0
  · have hz : Numeral.WF { whole := ['0'] } :=
      ⟨by simp, fun c hc => by rw [List.mem_singleton.1 hc]; rfl,
        fun c hc => absurd hc List.not_mem_nil⟩
    have := Numeral.decimalPrefix_text hz false hr
    rw [if_pos h0, h0]
    simpa [Numeral.text, Numeral.fractionText, Numeral.exponentText, Numeral.value, scale_eq,
      digitsValue] using this
  · have hne : (significand x).1 ≠ [] := toDigits_ne_nil _
    have hwf := numeral_wf hne (fun c hc => isDigit_toDigits hc) (significand x).2
    have hread := Numeral.decimalPrefix_text hwf (decide (x < 0)) hr
    rw [numeral_value, significand_value h] at hread
    rw [if_neg h0]
    by_cases hneg : x < 0
    · simp only [hneg, decide_true, if_true, abs_of_neg hneg, neg_neg] at hread
      simpa [hneg] using hread
    · simp only [hneg, decide_false, abs_of_nonneg (not_lt.1 hneg)] at hread
      simpa [hneg] using hread

/-! ## Finite decimals -/

/-- A divisor of a power of ten divides the one that its size allows. -/
theorem dvd_ten_pow_log2 {d n : ℕ} (h : d ∣ 10 ^ n) : d ∣ 10 ^ Nat.log2 d := by
  have hd : d ≠ 0 := by
    rintro rfl
    exact absurd (Nat.eq_zero_of_zero_dvd h) (by positivity)
  rw [← Nat.factorization_le_iff_dvd hd (by positivity)]
  have hle := (Nat.factorization_le_iff_dvd hd (by positivity : 10 ^ n ≠ 0)).2 h
  intro p
  rw [Nat.factorization_pow]
  by_cases hp : p.Prime
  · have hn := hle p
    rw [Nat.factorization_pow, Finsupp.smul_apply, smul_eq_mul] at hn
    rw [Finsupp.smul_apply, smul_eq_mul]
    by_cases hten : (10 : ℕ).factorization p = 0
    · rw [hten, mul_zero] at hn
      rw [hten, mul_zero]
      exact hn
    · have hone : 1 ≤ (10 : ℕ).factorization p := Nat.one_le_iff_ne_zero.2 hten
      have hlog : d.factorization p ≤ Nat.log2 d := by
        rw [Nat.le_log2 hd]
        calc 2 ^ d.factorization p ≤ p ^ d.factorization p := Nat.pow_le_pow_left hp.two_le _
          _ ≤ d := Nat.ordProj_le p hd
      calc d.factorization p ≤ Nat.log2 d * 1 := by rw [mul_one]; exact hlog
        _ ≤ Nat.log2 d * (10 : ℕ).factorization p := Nat.mul_le_mul_left _ hone
  · rw [Nat.factorization_eq_zero_of_not_prime d hp]
    exact Nat.zero_le _

theorem isDecimal_div (a : ℤ) (n : ℕ) : IsDecimal (a / (10 ^ n : ℕ)) := by
  have h : ((a : ℚ) / ((10 ^ n : ℕ) : ℤ)).den ∣ 10 ^ n := by
    have := Rat.den_dvd a (10 ^ n : ℕ)
    exact_mod_cast this
  rw [Int.cast_natCast] at h
  exact dvd_ten_pow_log2 h

example : numberText (1 / 8) = ['0', '.', '1', '2', '5'] := by decide +kernel

example : numberText (-12 * 10 ^ 23) = ['-', '1', '.', '2', 'e', '+', '2', '4'] := by
  decide +kernel

end Js
