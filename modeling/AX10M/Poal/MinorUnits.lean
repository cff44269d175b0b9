/-
  The conversions of decimal amounts to minor units and back, of four adapters.

  Only Braintree's looks at the currency; those of PayPal, WooCommerce and Shopify count in
  hundredths.  So for an amount with the decimals of its currency they all give its minor units if
  and only if the amount is zero, or the currency has two decimals and Braintree's table says so
  (`moneyAgrees_iff`).
-/
import AX10M.Poal.Braintree
import AX10M.Poal.PayPal
import AX10M.Poal.Shopify
import AX10M.Poal.WooCommerce

namespace AX10M

open Js

/-- A decimal amount with `e` decimals. -/
structure DecimalAmount (e : ℕ) where
  negative : Bool := false
  numeral : Numeral
  wf : numeral.WF
  plain : numeral.exponent = 0
  decimals : numeral.fraction.length = e

namespace DecimalAmount

variable {e : ℕ} (a : DecimalAmount e)

def text : String := String.ofList (signText a.negative ++ a.numeral.text)

def amount : ℚ := signed a.negative a.numeral.value

/-- The amount in units of its last decimal. -/
def minor : ℤ :=
  let n : ℤ := digitsValue (a.numeral.whole ++ a.numeral.fraction)
  if a.negative then -n else n

theorem amount_eq : a.amount = a.minor / 10 ^ e := by
  have hvalue : a.numeral.value =
      digitsValue (a.numeral.whole ++ a.numeral.fraction) / 10 ^ e := by
    rw [Numeral.value, a.plain, a.decimals, scale_eq, zero_sub, zpow_neg, zpow_natCast,
      div_eq_mul_inv]
  unfold amount minor signed
  rw [hvalue]
  split_ifs
  · push_cast
    rw [neg_div]
  · push_cast
    rfl

theorem truthy_text : truthy (some a.text) = some a.text := by
  have hne : a.text ≠ "" := by
    intro h
    have h := congrArg String.toList h
    rw [text, String.toList_ofList] at h
    have hwhole := (List.append_eq_nil_iff.1 h).2
    rw [Numeral.text, List.append_assoc] at hwhole
    exact a.wf.nonempty (List.append_eq_nil_iff.1 hwhole).1
  simpa [truthy] using hne

theorem numberOf_text : numberOf a.text = some a.amount := Numeral.numberOf_text a.wf a.negative

/-! ## The conversions -/

theorem decimalToMinor_text (currency : String) : decimalToMinor (some a.text) currency =
    Js.round (a.amount * 10 ^ currencyExponent currency) := by
  rw [decimalToMinor, a.truthy_text, Option.bind_some,
    show parseFloat a.text = some a.amount from Numeral.parseFloat_text a.wf a.negative]
  push_cast
  rfl

theorem majorToMinor_text : majorToMinor (some a.text) = Js.round (a.amount * 10 ^ 2) := by
  rw [majorToMinor, a.truthy_text, Option.bind_some, a.numberOf_text]
  norm_num

theorem wooCommerce_text : WooCommerceAdapter.toMinorUnits (some a.text) =
    Js.round (a.amount * 10 ^ 2) := by
  rw [WooCommerceAdapter.toMinorUnits, a.truthy_text, Option.bind_some, a.numberOf_text]
  norm_num

theorem shopify_text : toMinorUnits (some a.text) = Js.round (a.amount * 10 ^ 2) := by
  rw [toMinorUnits, a.truthy_text, Option.bind_some, a.numberOf_text]
  norm_num

end DecimalAmount

/-- All four adapters take the amount for its minor units, and the two that write it again write
    that amount. -/
structure MoneyAgrees (currency : String) {e : ℕ} (a : DecimalAmount e) : Prop where
  braintree : decimalToMinor (some a.text) currency = a.amount * 10 ^ e
  paypal : majorToMinor (some a.text) = a.amount * 10 ^ e
  woocommerce : WooCommerceAdapter.toMinorUnits (some a.text) = a.amount * 10 ^ e
  shopify : toMinorUnits (some a.text) = a.amount * 10 ^ e
  braintreeBack : numberOf (minorToDecimal (decimalToMinor (some a.text) currency) currency) =
    some a.amount
  paypalBack : numberOf (minorToMajor (majorToMinor (some a.text))) = some a.amount

/-- Units of the `e`-th decimal are only kept by a scale with `e` decimals. -/
theorem round_scaled_eq_iff (m : ℤ) (e x : ℕ) :
    Js.round ((m : ℚ) / 10 ^ e * 10 ^ x) = m ↔ m = 0 ∨ x = e := by
  have hpow : ∀ n : ℕ, (0 : ℚ) < 10 ^ n := fun n => by positivity
  constructor
  · intro h
    by_contra hne
    obtain ⟨hm, hxe⟩ := not_or.1 hne
    rcases lt_or_gt_of_ne hxe with hlt | hgt
    · -- fewer decimals: rounding bridges half a unit, and the amount lost nine tenths of its units
      obtain ⟨k, rfl⟩ : ∃ k, e = x + (k + 1) := ⟨e - x - 1, by omega⟩
      have hscaled : (m : ℚ) / 10 ^ (x + (k + 1)) * 10 ^ x = m / 10 ^ (k + 1) := by
        rw [pow_add, ← div_div, div_right_comm, div_mul_cancel₀ _ (hpow x).ne']
      have hten : (10 : ℚ) ≤ 10 ^ (k + 1) := by
        calc (10 : ℚ) = 10 ^ 1 := (pow_one _).symm
          _ ≤ 10 ^ (k + 1) := pow_le_pow_right₀ (by norm_num) (by omega)
      have hle := Js.round_le ((m : ℚ) / 10 ^ (x + (k + 1)) * 10 ^ x)
      have hgt := Js.lt_round ((m : ℚ) / 10 ^ (x + (k + 1)) * 10 ^ x)
      rw [h, hscaled] at hle hgt
      rcases lt_or_gt_of_ne hm with hneg | hpos
      · have hm1 : (m : ℚ) ≤ -1 := by exact_mod_cast (by omega : m ≤ -1)
        have hdiv : (m : ℚ) / 10 ≤ m / 10 ^ (k + 1) := by
          rw [div_le_div_iff₀ (by norm_num) (hpow _)]
          nlinarith
        linarith
      · have hm1 : (1 : ℚ) ≤ m := by exact_mod_cast (by omega : 1 ≤ m)
        have hdiv : (m : ℚ) / 10 ^ (k + 1) ≤ m / 10 := by
          rw [div_le_div_iff₀ (hpow _) (by norm_num)]
          nlinarith
        linarith
    · -- more decimals: the scaled amount is whole, and ten times the units or more
      obtain ⟨k, rfl⟩ : ∃ k, x = e + (k + 1) := ⟨x - e - 1, by omega⟩
      have hscaled : (m : ℚ) / 10 ^ e * 10 ^ (e + (k + 1)) = (m * 10 ^ (k + 1) : ℤ) := by
        rw [pow_add, ← mul_assoc, div_mul_cancel₀ _ (hpow e).ne']
        push_cast
        rfl
      rw [hscaled, Js.round_intCast] at h
      have hone : (10 : ℤ) ^ (k + 1) = 1 := mul_left_cancel₀ hm (h.trans (mul_one m).symm)
      have hten : (10 : ℤ) ^ (k + 1) ≠ 1 := by
        rw [pow_succ]
        intro hone
        omega
      exact hten hone
  · rintro (rfl | rfl)
    · rw [Int.cast_zero, zero_div, zero_mul]
      exact Js.round_intCast 0
    · rw [div_mul_cancel₀ _ (hpow x).ne', Js.round_intCast]

variable {currency : String} {e : ℕ} {a : DecimalAmount e}

theorem DecimalAmount.amount_mul : a.amount * 10 ^ e = a.minor := by
  rw [a.amount_eq, div_mul_cancel₀ _ (by positivity)]

/-- An amount that is taken alike, and is not zero, has two decimals. -/
theorem MoneyAgrees.two (h : MoneyAgrees currency a) (hne : a.minor ≠ 0) :
    e = 2 ∧ currencyExponent currency = 2 := by
  have hpaypal := h.paypal
  have hbraintree := h.braintree
  rw [a.majorToMinor_text, DecimalAmount.amount_mul, a.amount_eq, Int.cast_inj,
    round_scaled_eq_iff] at hpaypal
  rw [a.decimalToMinor_text, DecimalAmount.amount_mul, a.amount_eq, Int.cast_inj,
    round_scaled_eq_iff] at hbraintree
  obtain rfl : 2 = e := hpaypal.resolve_left hne
  exact ⟨rfl, hbraintree.resolve_left hne⟩

namespace Sample

/-- 1490 yen. -/
def yen : DecimalAmount 0 where
  numeral := { whole := ['1', '4', '9', '0'] }
  wf := ⟨by simp, by simp [Char.isDigit], by simp⟩
  plain := rfl
  decimals := rfl

/-- 1.490 Kuwaiti dinars. -/
def dinars : DecimalAmount 3 where
  numeral := { whole := ['1'], fraction := ['4', '9', '0'] }
  wf := ⟨by simp, by simp [Char.isDigit], by simp [Char.isDigit]⟩
  plain := rfl
  decimals := rfl

end Sample

/-- 1490 yen are a hundred times as much for three adapters as for Braintree, and dinars a tenth. -/
theorem moneyAgrees_fails :
    ¬ MoneyAgrees "JPY" Sample.yen ∧ ¬ MoneyAgrees "KWD" Sample.dinars := by
  constructor
  · intro h
    exact absurd (h.two (by decide)).1 (by decide)
  · intro h
    exact absurd (h.two (by decide)).1 (by decide)

/-- The adapters agree on an amount if and only if it is zero, or has two decimals in a currency
    with two. -/
theorem moneyAgrees_iff (currency : String) {e : ℕ} (a : DecimalAmount e) :
    MoneyAgrees currency a ↔ a.amount = 0 ∨ e = 2 ∧ currencyExponent currency = 2 := by
  have hzero : a.amount = 0 ↔ a.minor = 0 := by
    rw [a.amount_eq, div_eq_zero_iff, Int.cast_eq_zero]
    constructor
    · rintro (h | h)
      · exact h
      · exact absurd h (by positivity)
    · exact .inl
  rw [hzero]
  constructor
  · intro h
    by_cases hne : a.minor = 0
    · exact .inl hne
    · exact .inr (h.two hne)
  · intro h
    have hscaled : ∀ x : ℕ, a.minor = 0 ∨ x = e → Js.round (a.amount * 10 ^ x) = a.minor := by
      intro x hx
      rw [a.amount_eq]
      exact (round_scaled_eq_iff a.minor e x).2 hx
    have htwo : a.minor = 0 ∨ 2 = e := h.imp_right fun h => h.1.symm
    have htable : a.minor = 0 ∨ currencyExponent currency = e :=
      h.imp_right fun h => h.2.trans h.1.symm
    -- the minor units, written with as many decimals as they were read with
    have hback : ∀ x : ℕ, a.minor = 0 ∨ x = e →
        numberOf (toFixed x ((a.minor : ℚ) / 10 ^ x)) = some a.amount := by
      intro x hx
      rw [numberOf_toFixed, a.amount_eq]
      rcases hx with hx | rfl
      · rw [hx, Int.cast_zero, zero_div, zero_div]
      · rfl
    refine ⟨?_, ?_, ?_, ?_, ?_, ?_⟩
    · rw [a.decimalToMinor_text, hscaled _ htable, DecimalAmount.amount_mul]
    · rw [a.majorToMinor_text, hscaled _ htwo, DecimalAmount.amount_mul]
    · rw [a.wooCommerce_text, hscaled _ htwo, DecimalAmount.amount_mul]
    · rw [a.shopify_text, hscaled _ htwo, DecimalAmount.amount_mul]
    · rw [a.decimalToMinor_text, hscaled _ htable]
      exact hback _ htable
    · rw [a.majorToMinor_text, hscaled _ htwo, minorToMajor, ← hback 2 htwo]
      norm_num

end AX10M
