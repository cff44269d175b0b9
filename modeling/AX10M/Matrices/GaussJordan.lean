/-
  Inverting a matrix by Gauss–Jordan elimination.

  `invertMatrix` clears the columns from left to right, each with the largest entry at or below the
  diagonal as its pivot, and makes the same row operations on the identity.  For a matrix that takes
  no vector but zero to zero, what becomes of the identity is the inverse (`invertMatrix_mul`).
-/
import Mathlib.LinearAlgebra.Matrix.NonsingularInverse
import Mathlib.Algebra.Order.Field.Basic

namespace Matrices

open Matrix

variable {K : Type*} [Field K] [LinearOrder K] {d : ℕ}

/-! ## The elimination -/

/-- A matrix, and beside it what the row operations so far make of the identity. -/
structure Augmented (K : Type*) (d : ℕ) where
  a : Matrix (Fin d) (Fin d) K
  inv : Matrix (Fin d) (Fin d) K

/-- The first row with the largest entry in a column, from the diagonal down. -/
def pivotOf (a : Matrix (Fin d) (Fin d) K) (col : Fin d) : Fin d :=
  ((List.finRange d).filter fun r => col < r).foldl
    (fun pivot r => if |a r col| > |a pivot col| then r else pivot) col

/-- The rows of the diagonal and of the pivot, exchanged. -/
def swapRows (s : Augmented K d) (col pivot : Fin d) : Augmented K d :=
  ⟨fun i => s.a (Equiv.swap col pivot i), fun i => s.inv (Equiv.swap col pivot i)⟩

/-- The row of the diagonal divided by its entry there, and its multiples taken from the other
    rows so that they are zero in the column. -/
def clearWith (s : Augmented K d) (col : Fin d) : Augmented K d :=
  let p := s.a col col
  let row := fun j => s.a col j / p
  let invRow := fun j => s.inv col j / p
  { a := fun r => if r = col then row else
      if s.a r col = 0 then s.a r else fun j => s.a r j - s.a r col * row j
    inv := fun r => if r = col then invRow else
      if s.a r col = 0 then s.inv r else fun j => s.inv r j - s.a r col * invRow j }

/-- One column; without a pivot it is left as it is. -/
def clearColumn (s : Augmented K d) (col : Fin d) : Augmented K d :=
  let t := swapRows s col (pivotOf s.a col)
  if t.a col col = 0 then t else clearWith t col

/-- The elimination over all columns, which turns the identity into the inverse. -/
def invertMatrix (src : Matrix (Fin d) (Fin d) K) : Matrix (Fin d) (Fin d) K :=
  ((List.finRange d).foldl clearColumn ⟨src, 1⟩).inv

/-! ## The pivot -/

theorem foldl_pivot (a : Matrix (Fin d) (Fin d) K) (col : Fin d) (rows : List (Fin d)) :
    ∀ pivot : Fin d,
      let q := rows.foldl (fun pivot r => if |a r col| > |a pivot col| then r else pivot) pivot
      |a pivot col| ≤ |a q col| ∧ ∀ r ∈ rows, |a r col| ≤ |a q col| := by
  induction rows with
  | nil => intro pivot; exact ⟨le_rfl, by simp⟩
  | cons r rows ih =>
    intro pivot
    rw [List.foldl_cons]
    obtain ⟨hpivot, hrows⟩ := ih (if |a r col| > |a pivot col| then r else pivot)
    have hr : |a r col| ≤ |a (if |a r col| > |a pivot col| then r else pivot) col| := by
      split_ifs with h
      · exact le_rfl
      · exact not_lt.1 h
    have hp : |a pivot col| ≤ |a (if |a r col| > |a pivot col| then r else pivot) col| := by
      split_ifs with h
      · exact h.le
      · exact le_rfl
    refine ⟨hp.trans hpivot, ?_⟩
    intro r' hr'
    rcases List.mem_cons.1 hr' with rfl | hr'
    · exact hr.trans hpivot
    · exact hrows r' hr'

/-- If the pivot is zero, so is the column from the diagonal down. -/
theorem eq_zero_of_pivot [IsStrictOrderedRing K] {a : Matrix (Fin d) (Fin d) K} {col : Fin d}
    (h : a (pivotOf a col) col = 0) {r : Fin d} (hr : col ≤ r) : a r col = 0 := by
  obtain ⟨hcol, hrows⟩ := foldl_pivot a col ((List.finRange d).filter fun r => col < r) col
  have hle : |a r col| ≤ |a (pivotOf a col) col| := by
    rcases hr.eq_or_lt with rfl | hr
    · exact hcol
    · exact hrows r (by simpa using hr)
  rw [h, abs_zero] at hle
  exact abs_eq_zero.1 (le_antisymm hle (abs_nonneg _))

/-- The pivot is not above the diagonal. -/
theorem le_pivotOf (a : Matrix (Fin d) (Fin d) K) (col : Fin d) : col ≤ pivotOf a col := by
  have hkept : ∀ (rows : List (Fin d)) (_ : ∀ r ∈ rows, col ≤ r) (pivot : Fin d), col ≤ pivot →
      col ≤ rows.foldl (fun pivot r => if |a r col| > |a pivot col| then r else pivot) pivot := by
    intro rows
    induction rows with
    | nil => intro _ pivot h; exact h
    | cons r rows ih =>
      intro hrows pivot h
      rw [List.foldl_cons]
      refine ih (fun r' hr' => hrows r' (List.mem_cons_of_mem _ hr')) _ ?_
      split_ifs
      · exact hrows r List.mem_cons_self
      · exact h
  refine hkept _ ?_ col le_rfl
  intro r hr
  exact (of_decide_eq_true (List.mem_filter.1 hr).2).le

/-! ## What the row operations keep -/

/-- After the first `k` columns: each row beside the matrix makes its row of it out of the rows of
    `src`, only zero is taken to zero, and the columns are those of the identity. -/
structure Cleared (src : Matrix (Fin d) (Fin d) K) (k : ℕ) (s : Augmented K d) : Prop where
  rows : ∀ i, s.inv i ᵥ* src = s.a i
  kernel : ∀ v, s.a *ᵥ v = 0 → v = 0
  done : ∀ c : Fin d, c < k → ∀ i, s.a i c = if i = c then 1 else 0

omit [LinearOrder K] in
/-- Exchanging two rows that are not done yet. -/
theorem Cleared.swapRows {src : Matrix (Fin d) (Fin d) K} {s : Augmented K d} {col pivot : Fin d}
    (h : Cleared src col s) (hpivot : col ≤ pivot) : Cleared src col (swapRows s col pivot) where
  rows i := h.rows _
  kernel v hv := by
    refine h.kernel v (funext fun i => ?_)
    have hi : s.a (Equiv.swap col pivot (Equiv.swap col pivot i)) ⬝ᵥ v = 0 :=
      congrFun hv (Equiv.swap col pivot i)
    rw [Equiv.swap_apply_self] at hi
    exact hi
  done c hc i := by
    have hcol : c ≠ col := by rintro rfl; exact lt_irrefl _ hc
    have hpivot' : c ≠ pivot := by rintro rfl; exact absurd hc (not_lt.2 hpivot)
    show s.a (Equiv.swap col pivot i) c = _
    rw [h.done c hc]
    have hiff : Equiv.swap col pivot i = c ↔ i = c := by
      rw [Equiv.swap_apply_eq_iff, Equiv.swap_apply_of_ne_of_ne hcol hpivot']
    simp only [hiff]

theorem clearWith_a (s : Augmented K d) (col r : Fin d) :
    (clearWith s col).a r = if r = col then (s.a col col)⁻¹ • s.a col else
      s.a r - s.a r col • (s.a col col)⁻¹ • s.a col := by
  ext j
  by_cases hr : r = col
  · simp [clearWith, hr, div_eq_inv_mul]
  · by_cases hz : s.a r col = 0
    · simp [clearWith, hr, hz]
    · simp [clearWith, hr, hz, div_eq_inv_mul]

theorem clearWith_inv (s : Augmented K d) (col r : Fin d) :
    (clearWith s col).inv r = if r = col then (s.a col col)⁻¹ • s.inv col else
      s.inv r - s.a r col • (s.a col col)⁻¹ • s.inv col := by
  ext j
  by_cases hr : r = col
  · simp [clearWith, hr, div_eq_inv_mul]
  · by_cases hz : s.a r col = 0
    · simp [clearWith, hr, hz]
    · simp [clearWith, hr, hz, div_eq_inv_mul]

/-- Clearing a column with a pivot that is not zero. -/
theorem Cleared.clearWith {src : Matrix (Fin d) (Fin d) K} {s : Augmented K d} {col : Fin d}
    (h : Cleared src col s) (hp : s.a col col ≠ 0) : Cleared src (col + 1) (clearWith s col) where
  rows i := by
    rw [clearWith_a, clearWith_inv]
    split_ifs with hi
    · rw [smul_vecMul, h.rows]
    · rw [sub_vecMul, smul_vecMul, smul_vecMul, h.rows, h.rows]
  kernel v hv := by
    have hrow : ∀ i, (Matrices.clearWith s col).a i ⬝ᵥ v = 0 := fun i => congrFun hv i
    have hcol : s.a col ⬝ᵥ v = 0 := by
      have hthis := hrow col
      rw [clearWith_a, if_pos rfl, smul_dotProduct, smul_eq_mul] at hthis
      exact (mul_eq_zero.1 hthis).resolve_left (inv_ne_zero hp)
    refine h.kernel v (funext fun i => ?_)
    show s.a i ⬝ᵥ v = 0
    by_cases hi : i = col
    · rw [hi, hcol]
    · have hthis := hrow i
      rw [clearWith_a, if_neg hi, sub_dotProduct, smul_dotProduct, smul_dotProduct, hcol,
        smul_zero, smul_zero, sub_zero] at hthis
      exact hthis
  done c hc i := by
    rw [clearWith_a]
    rcases (Nat.lt_succ_iff.1 hc).eq_or_lt with hc | hc
    · obtain rfl : c = col := Fin.ext hc
      by_cases hi : i = c
      · simp [hi, inv_mul_cancel₀ hp]
      · simp [hi, inv_mul_cancel₀ hp]
    · have hne : col ≠ c := by rintro rfl; exact lt_irrefl _ hc
      have hzero : s.a col c = 0 := by rw [h.done c hc, if_neg hne]
      by_cases hi : i = col
      · simp [hi, hzero, hne]
      · simp [hi, hzero, h.done c hc]

section

variable [IsStrictOrderedRing K]

/-- A column always has a pivot: without one it would be made of the columns before it. -/
theorem Cleared.pivot_ne_zero {src : Matrix (Fin d) (Fin d) K} {s : Augmented K d} {col : Fin d}
    (h : Cleared src col s) : s.a (pivotOf s.a col) col ≠ 0 := by
  intro hzero
  have hbelow : ∀ r, col ≤ r → s.a r col = 0 := fun r hr => eq_zero_of_pivot hzero hr
  let v : Fin d → K := fun c => if c = col then 1 else if c < col then - s.a c col else 0
  have hterm : ∀ i c, s.a i c * v c = (if c = col then s.a i col else 0) +
      (if c = i then (if i < col then - s.a i col else 0) else 0) := by
    intro i c
    by_cases hc : c = col
    · subst hc
      by_cases hi : c = i
      · simp [v, hi]
      · simp [v, hi]
    · by_cases hlt : c < col
      · have hdone := h.done c hlt i
        by_cases hi : c = i
        · subst hi
          simp [v, hc, hlt, hdone]
        · simp [v, hc, hlt, hdone, hi, Ne.symm hi]
      · by_cases hi : c = i
        · subst hi
          simp [v, hc, hlt]
        · simp [v, hc, hlt, hi]
  have hv : s.a *ᵥ v = 0 := by
    ext i
    show ∑ c, s.a i c * v c = 0
    rw [Finset.sum_congr rfl fun c _ => hterm i c, Finset.sum_add_distrib, Finset.sum_ite_eq',
      Finset.sum_ite_eq', if_pos (Finset.mem_univ _), if_pos (Finset.mem_univ _)]
    split_ifs with hi
    · exact add_neg_cancel _
    · rw [hbelow i (not_lt.1 hi), add_zero]
  have hone : v col = 0 := congrFun (h.kernel v hv) col
  simp [v] at hone

theorem Cleared.clearColumn {src : Matrix (Fin d) (Fin d) K} {s : Augmented K d} {col : Fin d}
    (h : Cleared src col s) : Cleared src (col + 1) (clearColumn s col) := by
  have hswap := h.swapRows (le_pivotOf s.a col)
  have hp : (Matrices.swapRows s col (pivotOf s.a col)).a col col ≠ 0 := by
    show s.a (Equiv.swap col (pivotOf s.a col) col) col ≠ 0
    rw [Equiv.swap_apply_left]
    exact h.pivot_ne_zero
  unfold Matrices.clearColumn
  simp only [if_neg hp]
  exact hswap.clearWith hp

theorem cleared_take {src : Matrix (Fin d) (Fin d) K} (hsrc : ∀ v, src *ᵥ v = 0 → v = 0) :
    ∀ k ≤ d, Cleared src k (((List.finRange d).take k).foldl Matrices.clearColumn ⟨src, 1⟩) := by
  intro k
  induction k with
  | zero =>
    intro _
    exact ⟨fun i => congrFun (one_mul src) i, hsrc, fun c hc => absurd hc (Nat.not_lt_zero _)⟩
  | succ k ih =>
    intro hk
    have hlen : k < (List.finRange d).length := by simpa using hk
    rw [List.take_succ_eq_append_getElem hlen, List.foldl_append, List.getElem_finRange]
    have hbefore : Cleared src (⟨k, hk⟩ : Fin d) _ := ih (by omega)
    exact hbefore.clearColumn

/-- The elimination inverts a matrix that takes only zero to zero. -/
theorem invertMatrix_mul {src : Matrix (Fin d) (Fin d) K} (h : ∀ v, src *ᵥ v = 0 → v = 0) :
    invertMatrix src * src = 1 := by
  have hcleared := cleared_take h d le_rfl
  rw [List.take_of_length_le (by simp)] at hcleared
  have ha : ((List.finRange d).foldl Matrices.clearColumn ⟨src, 1⟩).a = 1 := by
    ext i c
    rw [hcleared.done c c.isLt, one_apply]
  rw [← ha]
  ext i c
  exact congrFun (hcleared.rows i) c

end

end Matrices
