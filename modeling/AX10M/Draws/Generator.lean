/-
  Draws: the generator `mulberry32` with 32 bits of state, attempts that each cost one draw, and
  shuffles.

  `firstHit_sublist`: with more attempts in the same order, and the same draws, the first hit is no
  later.  `shuffle` swaps each place, from the last on, with a drawn one before it or itself; what
  it gives is the list in another order (`shuffle_perm`).  `chosen` and `others` are the items at
  some places and the rest: together they are the list (`others_append_chosen`).
-/
import Mathlib.Algebra.Order.Field.Basic
import Mathlib.Algebra.Order.Field.Rat
import Mathlib.Algebra.Order.Floor.Ring
import Mathlib.Data.List.Perm.Basic
import Mathlib.Data.List.Perm.Subperm
import Mathlib.Data.List.Sublists
import Mathlib.Data.Rat.Floor
import Mathlib.Order.Defs.LinearOrder
import Mathlib.Tactic.Linarith
import Mathlib.Tactic.Positivity

/-! ## The generator -/

namespace Draws

/-- `x >>> 0`: a number is cut to an integer, modulo `2 ^ 32`. -/
def toUint32 (x : ℚ) : UInt32 := UInt32.ofInt (x.num.tdiv x.den)

/-- A generator with its state. -/
structure Rng where
  a : UInt32

/-- The generator of a seed. -/
def mulberry32 (seed : UInt32) : Rng := ⟨seed⟩

/-- The bits of a state. -/
def Rng.mix (a : UInt32) : UInt32 :=
  let t := (a ^^^ (a >>> 15)) * (1 ||| a)
  let t := (t + (t ^^^ (t >>> 7)) * (61 ||| t)) ^^^ t
  t ^^^ (t >>> 14)

/-- A draw, and the generator after it. -/
def Rng.next (rng : Rng) : ℚ × Rng :=
  let a := rng.a + 0x6d2b79f5
  ((Rng.mix a).toNat / (4294967296 : ℕ), ⟨a⟩)

/-- A draw that is less than a bound. -/
def Rng.below (rng : Rng) (p : ℚ) : Bool × Rng := (decide (rng.next.1 < p), rng.next.2)

end Draws

/-! ## Attempts -/

namespace Draws

variable {σ α : Type}

/-- The first attempt whose draw hits. -/
def firstHit (draw : σ → Bool × σ) : σ → List α → Option α
  | _, [] => none
  | s, x :: xs => if (draw s).1 then some x else firstHit draw (draw s).2 xs

theorem mem_of_firstHit {draw : σ → Bool × σ} {s : σ} {xs : List α} {x : α}
    (h : firstHit draw s xs = some x) : x ∈ xs := by
  induction xs generalizing s with
  | nil => cases h
  | cons y xs ih =>
    rw [firstHit] at h
    split_ifs at h
    · rw [Option.some.inj h]
      exact List.mem_cons_self
    · exact List.mem_cons_of_mem y (ih h)

/-- **More attempts hit no later.**  An attempt that is left out makes the ones behind it draw
    earlier, but not what is drawn. -/
theorem firstHit_sublist [Preorder α] {draw : σ → Bool × σ} {s : σ} {xs ys : List α} {x : α}
    (hsub : xs.Sublist ys) (hsorted : ys.Pairwise (· ≤ ·)) (h : firstHit draw s xs = some x) :
    ∃ y, firstHit draw s ys = some y ∧ y ≤ x := by
  induction ys generalizing s xs with
  | nil =>
    rw [List.sublist_nil.1 hsub] at h
    cases h
  | cons y ys ih =>
    rw [List.pairwise_cons] at hsorted
    by_cases hhit : (draw s).1 = true
    · refine ⟨y, by rw [firstHit, if_pos hhit], ?_⟩
      rcases List.mem_cons.1 (hsub.subset (mem_of_firstHit h)) with rfl | hx
      · exact le_rfl
      · exact hsorted.1 x hx
    · cases xs with
      | nil => cases h
      | cons x' xs =>
        rw [firstHit, if_neg hhit] at h
        rw [firstHit, if_neg hhit]
        exact ih hsub.tail hsorted.2 h

end Draws

/-! ## Shuffles -/

namespace Draws

variable {α : Type}

/-! ## Shuffles -/

/-- Swap two places. -/
def swap (xs : List α) (i j : ℕ) : List α :=
  match xs[i]?, xs[j]? with
  | some x, some y => (xs.set i y).set j x
  | _, _ => xs

/-- A place that is drawn from the first `n`. -/
def Rng.place (rng : Rng) (n : ℕ) : ℕ := ⌊rng.next.1 * n⌋₊

/-- Swap a place with one that is drawn, up to itself. -/
def shuffleStep (p : List α × Rng) (i : ℕ) : List α × Rng :=
  (swap p.1 i (p.2.place (i + 1)), p.2.next.2)

/-- Fisher-Yates shuffle. -/
def shuffle (xs : List α) (rng : Rng) : List α :=
  ((List.range' 1 (xs.length - 1)).reverse.foldl shuffleStep (xs, rng)).1

theorem swap_perm (xs : List α) (i j : ℕ) : (swap xs i j).Perm xs := by
  unfold swap
  split
  · next x y hx hy =>
    obtain ⟨hi, rfl⟩ := List.getElem?_eq_some_iff.1 hx
    obtain ⟨hj, rfl⟩ := List.getElem?_eq_some_iff.1 hy
    exact List.set_set_perm hi hj
  · exact List.Perm.refl xs

theorem foldl_shuffleStep_perm (is : List ℕ) (p : List α × Rng) :
    (is.foldl shuffleStep p).1.Perm p.1 := by
  induction is generalizing p with
  | nil => exact List.Perm.refl p.1
  | cons i is ih =>
    rw [List.foldl_cons]
    exact (ih _).trans (swap_perm _ _ _)

/-- A shuffle is the list in another order. -/
theorem shuffle_perm (xs : List α) (rng : Rng) : (shuffle xs rng).Perm xs :=
  foldl_shuffleStep_perm _ (xs, rng)

/-! ## Parts -/

/-- The items at some places. -/
def chosen (places : List ℕ) (xs : List α) : List α :=
  (xs.zipIdx.filter fun p => p.2 ∈ places).map Prod.fst

/-- The items at the others. -/
def others (places : List ℕ) (xs : List α) : List α :=
  (xs.zipIdx.filter fun p => p.2 ∉ places).map Prod.fst

/-- Both parts are the list. -/
theorem others_append_chosen (places : List ℕ) (xs : List α) :
    (others places xs ++ chosen places xs).Perm xs := by
  have hsplit := List.filter_append_perm (fun p : α × ℕ => decide (p.2 ∈ places)) xs.zipIdx
  have hothers : others places xs =
      (xs.zipIdx.filter fun p => !decide (p.2 ∈ places)).map Prod.fst := by
    simp only [others, decide_not]
  have hmap := (List.perm_append_comm.trans hsplit).map Prod.fst
  rw [List.map_append, ← hothers] at hmap
  refine hmap.trans ?_
  rw [List.zipIdx_map_fst]

/-- There are as many items as places. -/
theorem length_chosen {places : List ℕ} {xs : List α} (hnodup : places.Nodup)
    (hlt : ∀ i ∈ places, i < xs.length) : (chosen places xs).length = places.length := by
  have hplaces : ((xs.zipIdx.filter fun p => p.2 ∈ places).map Prod.snd).Perm places := by
    have hfilter : (xs.zipIdx.filter fun p => p.2 ∈ places).map Prod.snd =
        (List.range xs.length).filter fun i => i ∈ places := by
      have hsnd : xs.zipIdx.map Prod.snd = List.range xs.length := by
        rw [List.zipIdx_map_snd, List.range_eq_range']
      rw [← hsnd, List.filter_map]
      rfl
    rw [hfilter]
    refine (List.perm_ext_iff_of_nodup (List.nodup_range.filter _) hnodup).2 fun i => ?_
    rw [List.mem_filter, List.mem_range, decide_eq_true_iff]
    exact ⟨fun h => h.2, fun h => ⟨hlt i h, h⟩⟩
  have hlength := hplaces.length_eq
  rw [List.length_map] at hlength
  rw [chosen, List.length_map, hlength]

theorem length_others {places : List ℕ} {xs : List α} (hnodup : places.Nodup)
    (hlt : ∀ i ∈ places, i < xs.length) :
    (others places xs).length = xs.length - places.length := by
  have hperm := (others_append_chosen places xs).length_eq
  rw [List.length_append, length_chosen hnodup hlt] at hperm
  omega

/-- The items that a shuffle draws: a part of a length. -/
theorem drawn_places (n k : ℕ) (rng : Rng) :
    ((shuffle (List.range n) rng).take k).Nodup ∧
      (∀ i ∈ (shuffle (List.range n) rng).take k, i < n) ∧
      ((shuffle (List.range n) rng).take k).length = min k n := by
  have hperm := shuffle_perm (List.range n) rng
  refine ⟨(hperm.nodup_iff.2 List.nodup_range).take, fun i hi => ?_, ?_⟩
  · exact List.mem_range.1 (hperm.mem_iff.1 (List.mem_of_mem_take hi))
  · rw [List.length_take, hperm.length_eq, List.length_range]

end Draws
