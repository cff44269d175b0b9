/-
  Gradient descent on numbers with infinities and `NaN`.

  A weight that is `NaN` stays so.  One step on an example with a feature that is `NaN` makes every
  weight `NaN` (`descend_nan`), and two steps on one with an infinite feature the weight of that
  feature (`descend_inf`).
-/
import AX10M.Js.Double
import AX10M.Regression.Descent
import Mathlib.Algebra.Order.Ring.Defs

namespace Regression

open Js Js.Double

variable {K : Type} [Field K]

/-- A sum has what its summands hand on. -/
theorem foldl_absorbs {α : Type} {P : Double K → Prop} (hadd : ∀ v u, P v → P (v + u))
    (hadd_left : ∀ v u, P v → P (u + v)) {f : α → Double K} {l : List α}
    (h : ∃ a ∈ l, P (f a)) (z : Double K) : P (l.foldl (fun z a => z + f a) z) := by
  have hkeep : ∀ (l : List α) (z : Double K), P z → P (l.foldl (fun z a => z + f a) z) := by
    intro l
    induction l with
    | nil => exact fun z hz => hz
    | cons a l ih => exact fun z hz => ih _ (hadd _ _ hz)
  induction l generalizing z with
  | nil => obtain ⟨a, ha, -⟩ := h; cases ha
  | cons a l ih =>
    obtain ⟨b, hb, hP⟩ := h
    rcases List.mem_cons.1 hb with rfl | hb
    · exact hkeep l _ (hadd_left _ _ hP)
    · exact ih ⟨b, hb, hP⟩ _

theorem foldl_nan {α : Type} {f : α → Double K} {l : List α} (h : ∃ a ∈ l, f a = nan)
    (z : Double K) : l.foldl (fun z a => z + f a) z = nan := by
  refine foldl_absorbs (P := fun v => v = nan) ?_ ?_ h z
  · rintro v u rfl
    exact nan_add u
  · rintro v u rfl
    exact add_nan u

theorem foldl_toward {α : Type} {s : Bool} {f : α → Double K} {l : List α}
    (h : ∃ a ∈ l, Toward s (f a)) (z : Double K) : Toward s (l.foldl (fun z a => z + f a) z) :=
  foldl_absorbs (fun _ u hv => hv.add u) (fun _ u hv => hv.add_left u) h z

/-- A sum is a number if its summands have one. -/
theorem foldl_ne_nan {α : Type} {f : α → Double K} {l : List α} (z : Double K) :
    l.foldl (fun z a => z + f a) z ≠ nan ↔ Addable (z :: l.map f) := by
  induction l generalizing z with
  | nil => cases z <;> simp [Addable]
  | cons a l ih =>
    rw [List.foldl_cons, ih, List.map_cons]
    exact addable_add z (f a) (l.map f)

variable [LinearOrder K] {d : ℕ} {m : Linear (Double K) d} {x : Vector (Double K) d}

/-- A value is `NaN` if a product in it is. -/
theorem value_nan {i : Fin d} (h : m.w.get i = nan ∨ x.get i = nan) : m.value x = nan := by
  refine foldl_nan ⟨i, List.mem_finRange i, ?_⟩ m.b
  rcases h with h | h
  · rw [h, nan_mul]
  · rw [h, mul_nan]

/-- A value with an infinite feature is infinite to the side of its weight, or `NaN`. -/
theorem value_toward {i : Fin d} (h : x.get i = inf false) :
    Toward (m.w.get i).isNegative (m.value x) := by
  refine foldl_toward ⟨i, List.mem_finRange i, ?_⟩ m.b
  rw [h]
  exact toward_mul_inf _

/-- The summands of a value. -/
def terms (m : Linear (Double K) d) (x : Vector (Double K) d) : List (Double K) :=
  m.b :: (List.finRange d).map fun i => m.w.get i * x.get i

theorem value_ne_nan : m.value x ≠ nan ↔ Addable (terms m x) := foldl_ne_nan m.b

variable {link : Double K → Double K} {lr l2 : Double K} {es : List (Example (Double K) d)}

/-! ## `NaN` -/

theorem step_nan {i : Fin d} (h : m.w.get i = nan) : (step link lr l2 es m).w.get i = nan := by
  rw [step_get, h, nan_sub]

theorem step_nan_of_residual (h : ∃ e ∈ es, residual link m e = nan) (i : Fin d) :
    (step link lr l2 es m).w.get i = nan := by
  have hgradient : (gradient link es m).w.get i = nan := by
    obtain ⟨e, he, hnan⟩ := h
    rw [gradient_get]
    exact foldl_nan ⟨e, he, by rw [hnan, nan_mul]⟩ 0
  rw [step_get, hgradient, nan_div, nan_add, mul_nan, sub_nan]

theorem residual_nan {e : Example (Double K) d} (hlink : link nan = nan)
    (h : m.value e.x = nan) : residual link m e = nan := by
  rw [residual, h, hlink, nan_sub, nan_mul]

theorem descend_nan_add {i : Fin d} {n : ℕ} (h : (descend link lr l2 es n m).w.get i = nan)
    (k : ℕ) : (descend link lr l2 es (n + k) m).w.get i = nan := by
  induction k with
  | zero => exact h
  | succ k ih =>
    rw [← Nat.add_assoc, descend_succ]
    exact step_nan ih

/-- **A feature that is `NaN`** makes every weight `NaN`. -/
theorem descend_nan (hlink : link nan = nan) (h : ∃ e ∈ es, ∃ i : Fin d, e.x.get i = nan) {n : ℕ}
    (hn : 1 ≤ n) (j : Fin d) : (descend link lr l2 es n m).w.get j = nan := by
  obtain ⟨e, he, i, hi⟩ := h
  have hone : (descend link lr l2 es 1 m).w.get j = nan := by
    rw [descend_succ]
    exact step_nan_of_residual ⟨e, he, residual_nan hlink (value_nan (Or.inr hi))⟩ j
  have hrest := descend_nan_add hone (n - 1)
  rwa [Nat.add_sub_cancel' hn] at hrest

/-! ## Infinite features -/

theorem infMul_zero (s : Bool) : (infMul s 0 : Double K) = nan := if_pos rfl

variable [IsStrictOrderedRing K]

theorem Positive.add {u v : Double K} (hu : u.Positive) (hv : v.Positive) :
    (u + v).Positive := by
  cases u with
  | fin x =>
    cases v with
    | fin y => exact add_pos hu hv
    | inf t => exact hv
    | nan => trivial
  | inf s =>
    cases v with
    | fin y => exact hu
    | inf t =>
      obtain rfl : s = false := hu
      obtain rfl : t = false := hv
      rfl
    | nan => trivial
  | nan => rw [nan_add]; trivial

theorem totalWeight_positive (hne : es ≠ []) (h : ∀ e ∈ es, e.weight.Positive) :
    (totalWeight es).Positive := by
  have hfold : ∀ (es : List (Example (Double K) d)) (a : Double K), a.Positive →
      (∀ e ∈ es, e.weight.Positive) → (es.foldl (fun a e => a + e.weight) a).Positive := by
    intro es
    induction es with
    | nil => exact fun a ha _ => ha
    | cons e es ih =>
      intro a ha hes
      exact ih _ (Positive.add ha (hes e List.mem_cons_self)) fun e' he' =>
        hes e' (List.mem_cons_of_mem e he')
  cases es with
  | nil => exact absurd rfl hne
  | cons e es =>
    have hfirst : (0 + e.weight).Positive := by
      have he := h e List.mem_cons_self
      cases hw : e.weight with
      | fin x =>
        rw [hw] at he
        show 0 < 0 + x
        rw [zero_add]
        exact he
      | inf s =>
        rw [hw] at he
        exact he
      | nan => trivial
    exact hfold es _ hfirst fun e' he' => h e' (List.mem_cons_of_mem e he')

/-- The link takes infinite values for what was seen, or was not. -/
structure Saturates (link : Double K → Double K) : Prop where
  nan : link nan = nan
  high : link (inf false) = 1
  low : link (inf true) = 0

/-- How far the value of an infinite feature is off. -/
def off (s : Bool) : K := if s then -1 else 1

theorem off_sign (s : Bool) {w : K} (hw : 0 < w) :
    off s * w ≠ 0 ∧ decide (off s * w < 0) = s := by
  cases s with
  | false =>
    rw [off, if_neg (by decide), one_mul]
    exact ⟨hw.ne', decide_eq_false hw.not_gt⟩
  | true =>
    rw [off, if_pos rfl, neg_one_mul]
    exact ⟨neg_ne_zero.2 hw.ne', decide_eq_true (neg_neg_of_pos hw)⟩

theorem infMul_off {s : Bool} {w : K} (hw : 0 < w) :
    (infMul false (off s * w) : Double K) = inf s := by
  obtain ⟨hne, hsign⟩ := off_sign s hw
  rw [infMul, if_neg hne, hsign, Bool.false_xor]

theorem off_toward {s : Bool} {v weight : Double K} (hv : v = fin 0 ∨ v = fin (off s))
    (hweight : weight.Positive) : Toward s (v * weight * inf false) := by
  cases weight with
  | fin w =>
    rcases hv with rfl | rfl
    · right
      show infMul false (0 * w) = nan
      rw [zero_mul]
      exact infMul_zero false
    · left
      exact infMul_off hweight
  | inf t =>
    obtain rfl : t = false := hweight
    rcases hv with rfl | rfl
    · right
      show infMul false 0 * inf false = nan
      rw [infMul_zero, nan_mul]
    · left
      have hone : (infMul false (off s) : Double K) = inf s := by
        have hmul : (infMul false (off s * 1) : Double K) = inf s := infMul_off one_pos
        rwa [mul_one] at hmul
      show infMul false (off s) * inf false = inf s
      rw [hone]
      exact congrArg inf (Bool.xor_false s)
  | nan =>
    right
    rw [mul_nan, nan_mul]

/-- The gradient of an example with an infinite feature is infinite to the side of its weight, or
    `NaN`: the example is right, and `0` times infinity, or is off to that side. -/
theorem residual_toward (hlink : Saturates link) {e : Example (Double K) d} {i : Fin d}
    (hx : e.x.get i = inf false) (hy : e.y = 0 ∨ e.y = 1) (hweight : e.weight.Positive) :
    Toward (m.w.get i).isNegative (residual link m e * e.x.get i) := by
  rcases value_toward (m := m) hx with hvalue | hvalue
  · rw [residual, hvalue, hx]
    refine off_toward ?_ hweight
    cases (m.w.get i).isNegative with
    | false =>
      rw [hlink.high]
      rcases hy with hy | hy
      · rw [hy, one_def, zero_def, fin_sub, sub_zero]
        exact Or.inr rfl
      · rw [hy, one_def, fin_sub, sub_self]
        exact Or.inl rfl
    | true =>
      rw [hlink.low]
      rcases hy with hy | hy
      · rw [hy, zero_def, fin_sub, sub_zero]
        exact Or.inl rfl
      · rw [hy, one_def, zero_def, fin_sub, zero_sub]
        exact Or.inr rfl
  · right
    rw [residual_nan hlink.nan hvalue, nan_mul]

/-- A step takes the weight of an infinite feature to infinity, away from its sign. -/
theorem step_toward (hlink : Saturates link) {lr : K} (hlr : 0 < lr)
    (hy : ∀ e ∈ es, e.y = 0 ∨ e.y = 1) (hweight : ∀ e ∈ es, e.weight.Positive) {i : Fin d}
    (hx : ∃ e ∈ es, e.x.get i = inf false) :
    Toward (m.w.get i).isNegative
      (fin lr * ((gradient link es m).w.get i / totalWeight es + l2 * m.w.get i)) := by
  obtain ⟨e, he, hxe⟩ := hx
  have hgradient : Toward (m.w.get i).isNegative ((gradient link es m).w.get i) := by
    rw [gradient_get]
    exact foldl_toward ⟨e, he, residual_toward hlink hxe (hy e he) (hweight e he)⟩ 0
  have htotal := totalWeight_positive (List.ne_nil_of_mem he) hweight
  exact ((hgradient.div htotal).add _).mul_left hlr

/-- A step comes back from infinity to `NaN`. -/
theorem step_inf (hlink : Saturates link) {lr : K} (hlr : 0 < lr)
    (hy : ∀ e ∈ es, e.y = 0 ∨ e.y = 1) (hweight : ∀ e ∈ es, e.weight.Positive) {i : Fin d}
    (hx : ∃ e ∈ es, e.x.get i = inf false) {s : Bool} (h : m.w.get i = inf s) :
    (step link (fin lr) l2 es m).w.get i = nan := by
  have hsign : (m.w.get i).isNegative = s := by
    rw [h]
    rfl
  have htoward : Toward (m.w.get i).isNegative
      (fin lr * ((gradient link es m).w.get i / totalWeight es + l2 * m.w.get i)) :=
    step_toward hlink hlr hy hweight hx
  rw [hsign] at htoward
  rw [step_get]
  rw [h] at htoward ⊢
  exact inf_sub_of_toward htoward

/-- **An infinite feature** makes its weight `NaN`. -/
theorem descend_inf (hlink : Saturates link) {lr : K} (hlr : 0 < lr)
    (hy : ∀ e ∈ es, e.y = 0 ∨ e.y = 1) (hweight : ∀ e ∈ es, e.weight.Positive) {i : Fin d}
    (hx : ∃ e ∈ es, e.x.get i = inf false) {n : ℕ} (hn : 2 ≤ n) :
    (descend link (fin lr) l2 es n m).w.get i = nan := by
  have htwo : (descend link (fin lr) l2 es 2 m).w.get i = nan := by
    have hfirst : Toward (!(m.w.get i).isNegative) ((step link (fin lr) l2 es m).w.get i) := by
      rw [step_get]
      exact (step_toward hlink hlr hy hweight hx).sub_left _
    rw [descend_succ]
    rcases hfirst with hinf | hnan
    · exact step_inf hlink hlr hy hweight hx hinf
    · exact step_nan hnan
  have hrest := descend_nan_add htwo (n - 2)
  rwa [Nat.add_sub_cancel' hn] at hrest

end Regression
