/-
  Numbers with infinities and `NaN`.

  The finite numbers are those of an ordered field, without rounding, and have one zero.  `Toward`:
  a sum with a summand that is infinite or `NaN` stays so, with its sign (`Toward.add`), and a
  number less one that is infinite to its own side is `NaN` (`inf_sub_of_toward`).  `Addable`:
  numbers whose sum is not `NaN`.
-/
import Mathlib.Algebra.Order.Field.Basic

namespace Js

/-- A number: finite, infinite with its sign, or `NaN`. -/
inductive Double (K : Type) where
  | fin (x : K)
  | inf (negative : Bool)
  | nan

namespace Double

variable {K : Type}

/-- A number with its finite part in another field. -/
def map {L : Type} (f : K → L) : Double K → Double L
  | fin x => fin (f x)
  | inf s => inf s
  | nan => nan

/-- The finite part of a number, zero for the others. -/
def finitePart [Zero K] : Double K → K
  | fin x => x
  | _ => 0

/-- The numbers have a sum: none is `NaN`, and no two are infinite with both signs. -/
def Addable (vs : List (Double K)) : Prop := nan ∉ vs ∧ ¬ (inf false ∈ vs ∧ inf true ∈ vs)

theorem addable_cons_fin {x : K} {vs : List (Double K)} : Addable (fin x :: vs) ↔ Addable vs := by
  simp [Addable]

theorem not_addable_of_nan {vs : List (Double K)} (h : nan ∈ vs) : ¬ Addable vs :=
  fun hvs => hvs.1 h

/-! ### Sums -/

section

variable [Field K]

instance : Zero (Double K) := ⟨fin 0⟩

instance : One (Double K) := ⟨fin 1⟩

def neg : Double K → Double K
  | fin x => fin (-x)
  | inf s => inf !s
  | nan => nan

def add : Double K → Double K → Double K
  | fin x, fin y => fin (x + y)
  | fin _, inf s | inf s, fin _ => inf s
  | inf s, inf t => if s = t then inf s else nan
  | _, _ => nan

instance : Neg (Double K) := ⟨neg⟩

instance : Add (Double K) := ⟨add⟩

instance : Sub (Double K) := ⟨fun x y => x + -y⟩

theorem zero_def : (0 : Double K) = fin 0 := rfl

theorem one_def : (1 : Double K) = fin 1 := rfl

theorem sub_def (x y : Double K) : x - y = x + -y := rfl

@[simp] theorem fin_add (x y : K) : fin x + fin y = fin (x + y) := rfl

@[simp] theorem neg_fin (x : K) : -fin x = fin (-x) := rfl

@[simp] theorem fin_sub (x y : K) : fin x - fin y = fin (x - y) := by
  rw [sub_def, neg_fin, fin_add, sub_eq_add_neg]

@[simp] theorem nan_add (x : Double K) : nan + x = nan := by cases x <;> rfl

@[simp] theorem add_nan (x : Double K) : x + nan = nan := by cases x <;> rfl

@[simp] theorem neg_nan : -(nan : Double K) = nan := rfl

@[simp] theorem nan_sub (x : Double K) : nan - x = nan := nan_add _

@[simp] theorem sub_nan (x : Double K) : x - nan = nan := add_nan _

theorem sum_comm (u v : Double K) : u + v = v + u := by
  cases u with
  | fin x =>
    cases v with
    | fin y => rw [fin_add, fin_add, add_comm]
    | _ => rfl
  | inf s =>
    cases v with
    | inf t =>
      show (if s = t then inf s else nan) = if t = s then inf t else nan
      by_cases hst : s = t
      · rw [if_pos hst, if_pos hst.symm, hst]
      · rw [if_neg hst, if_neg (Ne.symm hst)]
    | _ => rfl
  | nan => rw [nan_add, add_nan]

/-- The number is infinite with a sign, or `NaN`. -/
def Toward (s : Bool) (v : Double K) : Prop := v = inf s ∨ v = nan

theorem Toward.add {s : Bool} {v : Double K} (h : Toward s v) (u : Double K) :
    Toward s (v + u) := by
  rcases h with rfl | rfl
  · cases u with
    | fin x => exact Or.inl rfl
    | inf t =>
      by_cases hst : s = t
      · exact Or.inl (if_pos hst)
      · exact Or.inr (if_neg hst)
    | nan => exact Or.inr rfl
  · exact Or.inr (nan_add u)

theorem Toward.add_left {s : Bool} {v : Double K} (h : Toward s v) (u : Double K) :
    Toward s (u + v) := by
  rw [sum_comm]
  exact h.add u

theorem Toward.neg {s : Bool} {v : Double K} (h : Toward s v) : Toward (!s) (-v) := by
  rcases h with rfl | rfl
  · exact Or.inl rfl
  · exact Or.inr rfl

theorem Toward.sub_left {s : Bool} {v : Double K} (h : Toward s v) (u : Double K) :
    Toward (!s) (u - v) := h.neg.add_left u

/-- An infinite number, less one to the same side. -/
theorem inf_sub_of_toward {s : Bool} {v : Double K} (h : Toward s v) : inf s - v = nan := by
  rcases h with rfl | rfl
  · exact if_neg (by cases s <;> decide)
  · exact sub_nan _

/-- Two numbers in front may be added. -/
theorem addable_add (u v : Double K) (vs : List (Double K)) :
    Addable ((u + v) :: vs) ↔ Addable (u :: v :: vs) := by
  cases u with
  | fin x =>
    rw [addable_cons_fin]
    cases v with
    | fin y => rw [fin_add, addable_cons_fin, addable_cons_fin]
    | inf t => exact Iff.rfl
    | nan => exact Iff.rfl
  | inf s =>
    cases v with
    | fin y =>
      have hswap : Addable (inf s :: fin y :: vs) ↔ Addable (inf s :: vs) := by simp [Addable]
      exact hswap.symm
    | inf t =>
      by_cases hst : s = t
      · have hadd : inf s + inf t = (inf s : Double K) := if_pos hst
        rw [hadd, ← hst]
        simp [Addable]
      · have hadd : inf s + inf t = (nan : Double K) := if_neg hst
        rw [hadd]
        refine iff_of_false (not_addable_of_nan List.mem_cons_self) fun h => h.2 ?_
        cases s <;> cases t <;> simp at hst ⊢
    | nan =>
      rw [add_nan]
      exact iff_of_false (not_addable_of_nan List.mem_cons_self) (not_addable_of_nan (by simp))
  | nan =>
    rw [nan_add]
    exact iff_of_false (not_addable_of_nan List.mem_cons_self)
      (not_addable_of_nan List.mem_cons_self)

end

/-! ### Products -/

section

variable [Field K] [LinearOrder K]

/-- An infinite number with a sign times a finite one. -/
def infMul (s : Bool) (x : K) : Double K := if x = 0 then nan else inf (s ^^ decide (x < 0))

def mul : Double K → Double K → Double K
  | fin x, fin y => fin (x * y)
  | fin x, inf s | inf s, fin x => infMul s x
  | inf s, inf t => inf (s ^^ t)
  | _, _ => nan

def div : Double K → Double K → Double K
  | fin x, fin y => if y = 0 then infMul false x else fin (x / y)
  | fin _, inf _ => fin 0
  | inf s, fin y => inf (s ^^ decide (y < 0))
  | _, _ => nan

instance : Mul (Double K) := ⟨mul⟩

instance : Div (Double K) := ⟨div⟩

@[simp] theorem fin_mul (x y : K) : fin x * fin y = fin (x * y) := rfl

theorem fin_div {x y : K} (h : y ≠ 0) : fin x / fin y = fin (x / y) := if_neg h

@[simp] theorem nan_mul (x : Double K) : nan * x = nan := by cases x <;> rfl

@[simp] theorem mul_nan (x : Double K) : x * nan = nan := by cases x <;> rfl

@[simp] theorem nan_div (x : Double K) : nan / x = nan := by cases x <;> rfl

/-- The sign of a number. -/
def isNegative : Double K → Bool
  | fin x => x < 0
  | inf s => s
  | nan => false

/-- The number is positive, or `NaN`. -/
def Positive : Double K → Prop
  | fin x => 0 < x
  | inf s => s = false
  | nan => True

theorem toward_mul_inf (v : Double K) : Toward v.isNegative (v * inf false) := by
  cases v with
  | fin x =>
    by_cases hx : x = 0
    · exact Or.inr (if_pos hx)
    · refine Or.inl ((if_neg hx).trans ?_)
      rw [Bool.false_xor, isNegative]
  | inf s => exact Or.inl (congrArg inf (Bool.xor_false s))
  | nan => exact Or.inr rfl

theorem Toward.mul_left {s : Bool} {v : Double K} (h : Toward s v) {c : K} (hc : 0 < c) :
    Toward s (fin c * v) := by
  rcases h with rfl | rfl
  · refine Or.inl ((if_neg hc.ne').trans ?_)
    rw [decide_eq_false hc.not_gt, Bool.xor_false]
  · exact Or.inr rfl

theorem Toward.div {s : Bool} {v : Double K} (h : Toward s v) {t : Double K} (ht : t.Positive) :
    Toward s (v / t) := by
  rcases h with rfl | rfl
  · cases t with
    | fin y =>
      refine Or.inl (congrArg inf ?_)
      rw [decide_eq_false (lt_asymm ht), Bool.xor_false]
    | inf t => exact Or.inr rfl
    | nan => exact Or.inr rfl
  · exact Or.inr (nan_div t)

end

/-! ### Comparisons -/

section

variable [LinearOrder K]

/-- `x < y`, which no `NaN` is. -/
def lt : Double K → Double K → Bool
  | fin x, fin y => x < y
  | fin _, inf s => !s
  | inf s, fin _ => s
  | inf s, inf t => s && !t
  | _, _ => false

/-- `x <= y`, which no `NaN` is. -/
def le : Double K → Double K → Bool
  | fin x, fin y => x ≤ y
  | fin _, inf s => !s
  | inf s, fin _ => s
  | inf s, inf t => s || !t
  | _, _ => false

/-- `Math.max`. -/
def max : Double K → Double K → Double K
  | nan, _ | _, nan => nan
  | x, y => if x.lt y then y else x

/-- `Math.min`. -/
def min : Double K → Double K → Double K
  | nan, _ | _, nan => nan
  | x, y => if y.lt x then y else x

end

end Double

end Js
