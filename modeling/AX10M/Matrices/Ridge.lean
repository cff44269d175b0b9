/-
  The matrix of a ridge regression, with its inverse.

  A symmetric matrix that is positive definite stays so when `xxᵀ` is added, and the update of its
  inverse by Sherman and Morrison's formula gives the inverse of the sum
  (`shermanMorrisonUpdate_mul`).  The matrix of a regression starts as a multiple of the identity and
  every vector that is observed adds its outer product; the inverse beside it is so updated.  Over
  every run of observations it is the exact inverse, and the elimination finds the same one
  (`exact_run`).
-/
import AX10M.Matrices.GaussJordan
import Mathlib.Algebra.Order.Field.Basic
import Mathlib.LinearAlgebra.Matrix.NonsingularInverse
import Mathlib.Tactic.FieldSimp

/-! ## Sums of outer products -/

namespace Matrices

open Matrix

variable {K : Type*} [Field K] [LinearOrder K] {d : ℕ}

/-- What becomes of an inverse when `xxᵀ` is added to the matrix. -/
def shermanMorrisonUpdate (aInv : Matrix (Fin d) (Fin d) K) (x : Fin d → K) :
    Matrix (Fin d) (Fin d) K :=
  let aInvX := aInv *ᵥ x
  let denom := 1 + x ⬝ᵥ aInvX
  if denom ≤ 0 then aInv else
    of fun i j => if aInvX i = 0 then aInv i j else aInv i j - aInvX i * aInvX j / denom

/-- A symmetric matrix whose quadratic form is positive off zero. -/
structure PosDef (a : Matrix (Fin d) (Fin d) K) : Prop where
  symm : aᵀ = a
  pos : ∀ v, v ≠ 0 → 0 < v ⬝ᵥ a *ᵥ v

theorem PosDef.nonneg {a : Matrix (Fin d) (Fin d) K} (h : PosDef a) (v : Fin d → K) :
    0 ≤ v ⬝ᵥ a *ᵥ v := by
  by_cases hv : v = 0
  · simp [hv]
  · exact (h.pos v hv).le

theorem PosDef.kernel {a : Matrix (Fin d) (Fin d) K} (h : PosDef a) {v : Fin d → K}
    (hv : a *ᵥ v = 0) : v = 0 := by
  by_contra hne
  have hpos := h.pos v hne
  rw [hv, dotProduct_zero] at hpos
  exact lt_irrefl _ hpos

section

variable [IsStrictOrderedRing K]

theorem posDef_smul_one {c : K} (hc : 0 < c) : PosDef (c • (1 : Matrix (Fin d) (Fin d) K)) where
  symm := by rw [transpose_smul, transpose_one]
  pos v hv := by
    rw [smul_mulVec, one_mulVec, dotProduct_smul, smul_eq_mul]
    refine mul_pos hc ?_
    obtain ⟨i, hi⟩ := Function.ne_iff.1 hv
    exact Finset.sum_pos' (fun j _ => mul_self_nonneg _) ⟨i, Finset.mem_univ _,
      mul_self_pos.2 hi⟩

theorem PosDef.add_vecMulVec {a : Matrix (Fin d) (Fin d) K} (h : PosDef a) (x : Fin d → K) :
    PosDef (a + vecMulVec x x) where
  symm := by rw [transpose_add, h.symm, transpose_vecMulVec]
  pos v hv := by
    have hsquare : v ⬝ᵥ vecMulVec x x *ᵥ v = (x ⬝ᵥ v) * (x ⬝ᵥ v) := by
      rw [vecMulVec_mulVec, dotProduct_comm v, op_smul_eq_smul, smul_dotProduct, smul_eq_mul]
    rw [add_mulVec, dotProduct_add, hsquare]
    exact add_pos_of_pos_of_nonneg (h.pos v hv) (mul_self_nonneg _)

omit [IsStrictOrderedRing K] in
/-- The formula, with the rows it skips and the division it guards. -/
theorem shermanMorrisonUpdate_eq {aInv : Matrix (Fin d) (Fin d) K} {x : Fin d → K}
    (h : 0 < 1 + x ⬝ᵥ aInv *ᵥ x) : shermanMorrisonUpdate aInv x =
      aInv - (1 + x ⬝ᵥ aInv *ᵥ x)⁻¹ • vecMulVec (aInv *ᵥ x) (aInv *ᵥ x) := by
  have hpos : ¬ 1 + x ⬝ᵥ aInv *ᵥ x ≤ 0 := not_le.2 h
  ext i j
  rw [shermanMorrisonUpdate, if_neg hpos, of_apply, Matrix.sub_apply, Matrix.smul_apply,
    vecMulVec_apply, smul_eq_mul]
  split_ifs with hi
  · rw [hi, zero_mul, mul_zero, sub_zero]
  · rw [div_eq_inv_mul]

omit [IsStrictOrderedRing K] in
/-- The inverse is positive definite too. -/
theorem PosDef.inverse {a aInv : Matrix (Fin d) (Fin d) K} (ha : PosDef a)
    (hinv : aInv * a = 1) : PosDef aInv where
  symm := by
    refine left_inv_eq_left_inv ?_ hinv
    have htranspose : (a * aInv)ᵀ = 1 := by rw [mul_eq_one_comm.1 hinv, transpose_one]
    rw [transpose_mul, ha.symm] at htranspose
    exact htranspose
  pos v hv := by
    have hav : a *ᵥ (aInv *ᵥ v) = v := by rw [mulVec_mulVec, mul_eq_one_comm.1 hinv, one_mulVec]
    have hne : aInv *ᵥ v ≠ 0 := by
      intro hzero
      rw [hzero, mulVec_zero] at hav
      exact hv hav.symm
    have hpos := ha.pos _ hne
    rw [hav, dotProduct_comm] at hpos
    exact hpos

/-- The update inverts the sum. -/
theorem shermanMorrisonUpdate_mul {a aInv : Matrix (Fin d) (Fin d) K} (ha : PosDef a)
    (hinv : aInv * a = 1) (x : Fin d → K) :
    shermanMorrisonUpdate aInv x * (a + vecMulVec x x) = 1 := by
  have hinv' : a * aInv = 1 := mul_eq_one_comm.1 hinv
  have hax : a *ᵥ (aInv *ᵥ x) = x := by rw [mulVec_mulVec, hinv', one_mulVec]
  have hxa : (aInv *ᵥ x) ᵥ* a = x := by
    rw [← ha.symm, vecMul_transpose, hax]
  have hpos : 0 < 1 + x ⬝ᵥ aInv *ᵥ x :=
    add_pos_of_pos_of_nonneg one_pos ((ha.inverse hinv).nonneg x)
  rw [shermanMorrisonUpdate_eq hpos]
  generalize hu : aInv *ᵥ x = u at hxa hpos ⊢
  have hleft : vecMulVec u u * (a + vecMulVec x x) = (1 + x ⬝ᵥ u) • vecMulVec u x := by
    rw [Matrix.mul_add, vecMulVec_mul, hxa, vecMulVec_mul_vecMulVec, dotProduct_comm u,
      vecMulVec_smul, add_smul, one_smul]
  rw [Matrix.sub_mul, Matrix.mul_add, hinv, mul_vecMulVec, hu, Matrix.smul_mul, hleft, smul_smul,
    inv_mul_cancel₀ hpos.ne', one_smul, add_sub_cancel_right]

end

end Matrices

/-! ## The matrix and the inverse beside it -/

namespace Matrices

open Matrix

/-- A matrix and the inverse beside it. -/
structure Ridge (K : Type*) (d : ℕ) where
  a : Matrix (Fin d) (Fin d) K
  aInv : Matrix (Fin d) (Fin d) K

namespace Ridge

variable {K : Type*} [Field K] {d : ℕ}

/-- Nothing observed: `λI` and its inverse. -/
def fresh (lambda : K) : Ridge K d := ⟨lambda • 1, (1 / lambda) • 1⟩

variable [LinearOrder K]

/-- What observing a vector makes of both: `xxᵀ` is added to the matrix, row by row. -/
def observe (s : Ridge K d) (x : Fin d → K) : Ridge K d where
  a := of fun i j => if x i ≠ 0 then s.a i j + x i * x j else s.a i j
  aInv := shermanMorrisonUpdate s.aInv x

/-- The inverse is the inverse, and what is computed with it is defined: it is divided by numbers
    from `1` on, and roots are taken of numbers that are not negative. -/
structure Exact (s : Ridge K d) : Prop where
  posDef : PosDef s.a
  inverse : s.aInv * s.a = 1
  denominator : ∀ x, 1 ≤ 1 + x ⬝ᵥ s.aInv *ᵥ x
  radicand : ∀ x, 0 ≤ x ⬝ᵥ s.aInv *ᵥ x
  rebuilt : invertMatrix s.a = s.aInv

variable [IsStrictOrderedRing K]

/-- Everything follows from a positive definite matrix with its inverse. -/
theorem Exact.of_inverse {s : Ridge K d} (ha : PosDef s.a) (hinv : s.aInv * s.a = 1) :
    s.Exact where
  posDef := ha
  inverse := hinv
  denominator x := le_add_of_nonneg_right ((ha.inverse hinv).nonneg x)
  radicand x := (ha.inverse hinv).nonneg x
  rebuilt := left_inv_eq_left_inv (invertMatrix_mul fun _ hv => ha.kernel hv) hinv

theorem exact_fresh {lambda : K} (h : 0 < lambda) : (fresh lambda : Ridge K d).Exact := by
  refine Exact.of_inverse (posDef_smul_one h) ?_
  show ((1 / lambda) • (1 : Matrix (Fin d) (Fin d) K)) * (lambda • 1) = 1
  rw [Matrix.smul_mul, Matrix.one_mul, smul_smul, one_div, inv_mul_cancel₀ h.ne', one_smul]

omit [IsStrictOrderedRing K] in
/-- What the rows add is `xxᵀ`. -/
theorem observe_a (s : Ridge K d) (x : Fin d → K) : (s.observe x).a = s.a + vecMulVec x x := by
  ext i j
  by_cases hx : x i = 0
  · simp [observe, vecMulVec_apply, hx]
  · simp [observe, vecMulVec_apply, hx]

theorem exact_observe {s : Ridge K d} (h : s.Exact) (x : Fin d → K) : (s.observe x).Exact := by
  refine Exact.of_inverse ?_ ?_
  · rw [observe_a]
    exact h.posDef.add_vecMulVec x
  · rw [observe_a]
    exact shermanMorrisonUpdate_mul h.posDef h.inverse x

/-- The inverse stays exact over every run of observations. -/
theorem exact_run {s : Ridge K d} (h : s.Exact) (xs : List (Fin d → K)) :
    (xs.foldl observe s).Exact := by
  induction xs generalizing s with
  | nil => exact h
  | cons x xs ih => exact ih (exact_observe h x)

end Ridge

end Matrices
