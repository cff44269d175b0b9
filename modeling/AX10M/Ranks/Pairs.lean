/-
  Average ranks, and the pairs of two samples.

  `midrank` is the rank of a value in a list, the average of the places that equal values share;
  `gains` counts the pairs of two lists in which the first is the greater one, ties by half.
  `sum_midrank`: the ranks of one sample among both, added up, are the pairs that it gains, and a
  constant.  `midrank_block`: in a sorted list the rank is read off the ends of a block of ties.
-/
import Mathlib.Algebra.BigOperators.Group.List.Basic
import Mathlib.Algebra.BigOperators.Ring.List
import Mathlib.Algebra.Order.BigOperators.Group.List
import Mathlib.Algebra.Order.Field.Rat
import Mathlib.Data.List.ProdSigma
import Mathlib.Tactic.Linarith
import Mathlib.Tactic.Ring

namespace Ranks

variable {S : Type} [LinearOrder S]

/-- How many members of a list are less than a value. -/
def below (l : List S) (x : S) : ℕ := l.countP fun y => decide (y < x)

/-- How many members of a list are equal to a value. -/
def tied (l : List S) (x : S) : ℕ := l.countP fun y => decide (y = x)

/-- The average rank of a value in a list, from 1. -/
def midrank (l : List S) (x : S) : ℚ := below l x + (tied l x + 1) / 2

/-- What one value gains against another: a point if it is greater, half of one if they tie. -/
def gain (x y : S) : ℚ := if y < x then 1 else if y = x then 1 / 2 else 0

/-- The pairs of two lists that the first gains. -/
def gains (xs ys : List S) : ℚ := (xs.map fun x => (ys.map fun y => gain x y).sum).sum

theorem gain_add_gain (x y : S) : gain x y + gain y x = 1 := by
  rcases lt_trichotomy x y with h | rfl | h
  · rw [gain, gain, if_neg h.not_gt, if_neg h.ne', if_pos h, zero_add]
  · rw [gain, if_neg (lt_irrefl x), if_pos rfl]
    norm_num
  · rw [gain, gain, if_pos h, if_neg h.not_gt, if_neg h.ne', add_zero]

theorem gain_nonneg (x y : S) : 0 ≤ gain x y := by
  rw [gain]
  split_ifs <;> norm_num

/-- A rank among a list is the pairs that the value gains against it, and a half. -/
theorem midrank_eq (l : List S) (x : S) :
    midrank l x = 1 / 2 + (l.map fun y => gain x y).sum := by
  induction l with
  | nil => norm_num [midrank, below, tied]
  | cons y l ih =>
    have hcons : midrank (y :: l) x = midrank l x + gain x y := by
      rw [midrank, midrank, below, tied, List.countP_cons, List.countP_cons, ← below, ← tied,
        gain]
      by_cases hlt : y < x
      · rw [if_pos (by simpa using hlt), if_neg (by simpa using hlt.ne), if_pos hlt]
        push_cast
        ring
      · by_cases heq : y = x
        · rw [if_neg (by simpa using hlt), if_pos (by simpa using heq), if_neg hlt, if_pos heq]
          push_cast
          ring
        · rw [if_neg (by simpa using hlt), if_neg (by simpa using heq), if_neg hlt, if_neg heq]
          push_cast
          ring
    rw [hcons, ih, List.map_cons, List.sum_cons]
    ring

theorem gains_cons (x : S) (xs ys : List S) :
    gains (x :: xs) ys = (ys.map fun y => gain x y).sum + gains xs ys := by
  rw [gains, List.map_cons, List.sum_cons, ← gains]

theorem gains_nil_right (xs : List S) : gains xs [] = 0 := by
  simp [gains]

theorem gains_cons_right (xs : List S) (y : S) (ys : List S) :
    gains xs (y :: ys) = (xs.map fun x => gain x y).sum + gains xs ys := by
  rw [gains, gains, ← List.sum_map_add]
  simp only [List.map_cons, List.sum_cons]

theorem gains_nonneg (xs ys : List S) : 0 ≤ gains xs ys := by
  refine List.sum_nonneg fun v hv => ?_
  obtain ⟨x, -, rfl⟩ := List.mem_map.1 hv
  refine List.sum_nonneg fun w hw => ?_
  obtain ⟨y, -, rfl⟩ := List.mem_map.1 hw
  exact gain_nonneg x y

/-- Each pair is gained by one side, or shared. -/
theorem gains_add_gains (xs ys : List S) :
    gains xs ys + gains ys xs = xs.length * ys.length := by
  induction xs with
  | nil =>
    rw [gains_nil_right]
    simp [gains]
  | cons x xs ih =>
    have hrow : (ys.map fun y => gain x y).sum + (ys.map fun y => gain y x).sum = ys.length := by
      rw [← List.sum_map_add]
      simp only [gain_add_gain, List.map_const', List.sum_replicate, nsmul_eq_mul, mul_one]
    rw [gains_cons, gains_cons_right, List.length_cons]
    push_cast
    linarith

theorem gains_append_right (xs ys zs : List S) :
    gains xs (ys ++ zs) = gains xs ys + gains xs zs := by
  rw [gains, gains, gains, ← List.sum_map_add]
  simp only [List.map_append, List.sum_append]

theorem gains_perm_right (xs : List S) {ys zs : List S} (h : ys.Perm zs) :
    gains xs ys = gains xs zs := by
  have hrow (x : S) : (ys.map fun y => gain x y).sum = (zs.map fun y => gain x y).sum :=
    (h.map _).sum_eq
  rw [gains, gains]
  simp only [hrow]

/-- **The ranks of one sample among two**, added up. -/
theorem sum_midrank {xs ys all : List S} (h : all.Perm (xs ++ ys)) :
    (xs.map fun x => midrank all x).sum =
      gains xs ys + (xs.length * (xs.length + 1)) / 2 := by
  have hself := gains_add_gains xs xs
  have hsum : (xs.map fun x => midrank all x).sum = xs.length * (1 / 2) + gains xs all := by
    simp only [midrank_eq]
    rw [List.sum_map_add, ← gains, List.map_const', List.sum_replicate, nsmul_eq_mul]
  rw [hsum, gains_perm_right xs h, gains_append_right]
  linarith

/-! ## Pairs that are counted -/

/-- The pairs of two lists in which the first is greater. -/
def won (xs ys : List S) : ℕ := (xs ×ˢ ys).countP fun d => decide (d.2 < d.1)

/-- The pairs of two lists that are tied. -/
def drawn (xs ys : List S) : ℕ := (xs ×ˢ ys).countP fun d => decide (d.2 = d.1)

theorem won_cons (x : S) (xs ys : List S) : won (x :: xs) ys = below ys x + won xs ys := by
  rw [won, List.product_cons, List.countP_append, List.countP_map, below, won]
  rfl

theorem drawn_cons (x : S) (xs ys : List S) : drawn (x :: xs) ys = tied ys x + drawn xs ys := by
  rw [drawn, List.product_cons, List.countP_append, List.countP_map, tied, drawn]
  rfl

theorem gains_eq (xs ys : List S) : gains xs ys = won xs ys + (drawn xs ys : ℚ) / 2 := by
  induction xs with
  | nil => simp [gains, won, drawn]
  | cons x xs ih =>
    have hrow : (ys.map fun y => gain x y).sum = below ys x + (tied ys x : ℚ) / 2 := by
      have hrank := midrank_eq ys x
      rw [midrank] at hrank
      linarith
    rw [gains_cons, won_cons, drawn_cons, hrow, ih]
    push_cast
    ring

/-! ## Blocks of ties -/

/-- A value is the block at the start of a sorted list without lesser members. -/
theorem tied_eq_takeWhile {l : List S} {x : S} (hsorted : l.Pairwise (· ≤ ·))
    (hle : ∀ y ∈ l, x ≤ y) : tied l x = (l.takeWhile fun y => decide (y = x)).length := by
  induction l with
  | nil => rfl
  | cons y l ih =>
    rw [List.pairwise_cons] at hsorted
    by_cases heq : y = x
    · have ihl := ih hsorted.2 fun z hz => hle z (List.mem_cons_of_mem y hz)
      rw [tied, List.countP_cons_of_pos (by simpa using heq), ← tied, ihl,
        List.takeWhile_cons_of_pos (by simpa using heq), List.length_cons]
    · have hlt : x < y := lt_of_le_of_ne (hle y List.mem_cons_self) (Ne.symm heq)
      rw [List.takeWhile_cons_of_neg (by simpa using heq), tied, List.length_nil,
        List.countP_eq_zero]
      intro z hz
      have hz : y ≤ z := by
        rcases List.mem_cons.1 hz with rfl | hz
        · exact le_rfl
        · exact hsorted.1 z hz
      simpa using (hlt.trans_le hz).ne'

/-- Behind the block, all members are greater. -/
theorem lt_of_mem_dropWhile {l : List S} {x z : S} (hsorted : l.Pairwise (· ≤ ·))
    (hle : ∀ y ∈ l, x ≤ y) (hz : z ∈ l.dropWhile fun y => decide (y = x)) : x < z := by
  induction l with
  | nil => cases hz
  | cons y l ih =>
    rw [List.pairwise_cons] at hsorted
    by_cases heq : y = x
    · rw [List.dropWhile_cons_of_pos (by simpa using heq)] at hz
      exact ih hsorted.2 (fun w hw => hle w (List.mem_cons_of_mem y hw)) hz
    · have hlt : x < y := lt_of_le_of_ne (hle y List.mem_cons_self) (Ne.symm heq)
      rw [List.dropWhile_cons_of_neg (by simpa using heq)] at hz
      rcases List.mem_cons.1 hz with rfl | hz
      · exact hlt
      · exact hlt.trans_le (hsorted.1 z hz)

/-- In a sorted list, a rank is read off the ends of its block of ties. -/
theorem midrank_block {before rest : List S} {x : S}
    (hsorted : (x :: rest).Pairwise (· ≤ ·)) (hbefore : ∀ a ∈ before, a < x) :
    midrank (before ++ x :: rest) x = ((before.length : ℚ) + 1 +
      (before.length + ((x :: rest).takeWhile fun y => decide (y = x)).length : ℕ)) / 2 := by
  have hle : ∀ y ∈ x :: rest, x ≤ y := by
    intro y hy
    rcases List.mem_cons.1 hy with rfl | hy
    · exact le_rfl
    · exact (List.pairwise_cons.1 hsorted).1 y hy
  have hbelow : below (before ++ x :: rest) x = before.length := by
    have hnone : (x :: rest).countP (fun y => decide (y < x)) = 0 :=
      List.countP_eq_zero.2 fun y hy => by simpa using hle y hy
    have hall : before.countP (fun y => decide (y < x)) = before.length :=
      List.countP_eq_length.2 fun a ha => by simpa using hbefore a ha
    rw [below, List.countP_append, hnone, hall, add_zero]
  have htied : tied (before ++ x :: rest) x =
      ((x :: rest).takeWhile fun y => decide (y = x)).length := by
    have hnone : before.countP (fun y => decide (y = x)) = 0 :=
      List.countP_eq_zero.2 fun a ha => by simpa using (hbefore a ha).ne
    rw [tied, List.countP_append, hnone, zero_add, ← tied, tied_eq_takeWhile hsorted hle]
  rw [midrank, hbelow, htied]
  push_cast
  ring

end Ranks
