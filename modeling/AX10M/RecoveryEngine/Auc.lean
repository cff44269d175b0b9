/-
  The area under the ROC curve (`@ax10m/recovery-engine`, `training.ts`).

  `rankBlocks` is the loop over the blocks of equal scores, with fuel: a `NaN` is not equal to
  itself, so that its block is empty (`rankBlocks_nan`).  `auc_pairs`: of numbers it is the share
  of the pairs of a positive and a negative example that are ranked correctly, ties by half.
-/
import AX10M.Js.Map
import AX10M.Ranks.Pairs
import Mathlib.Algebra.Order.Field.Basic
import Mathlib.Data.List.Sort
import Mathlib.Data.List.TakeWhile

namespace AX10M

open Js Ranks

variable {S : Type}

/-- A score, `none` being `NaN`, and its label. -/
structure Prediction (S : Type) where
  p : Option S
  y : ℤ

/-- The scores with a label. -/
def scoresOf (preds : List (Prediction S)) (y : ℤ) : List (Option S) :=
  (preds.filter fun d => decide (d.y = y)).map Prediction.p

/-- The scores of both labels are all scores. -/
theorem scoresOf_perm {preds : List (Prediction S)} (h : ∀ d ∈ preds, d.y = 1 ∨ d.y = 0) :
    (preds.map Prediction.p).Perm (scoresOf preds 1 ++ scoresOf preds 0) := by
  have hneg : (preds.filter fun d => decide (d.y = 0)) =
      preds.filter fun d => !decide (d.y = 1) := by
    refine List.filter_congr fun d hd => ?_
    rcases h d hd with h | h <;> simp [h]
  rw [scoresOf, scoresOf, ← List.map_append, hneg]
  exact ((List.filter_append_perm _ preds).map Prediction.p).symm

theorem scoresOf_perm_of_perm {preds preds' : List (Prediction S)} (h : preds.Perm preds') (y : ℤ) :
    (scoresOf preds y).Perm (scoresOf preds' y) := (h.filter _).map _

theorem scoresOf_ne_nil {preds : List (Prediction S)} {y : ℤ} (h : ∃ d ∈ preds, d.y = y) :
    (scoresOf preds y).length ≠ 0 := by
  obtain ⟨d, hd, hy⟩ := h
  have hmem : d.p ∈ scoresOf preds y :=
    List.mem_map_of_mem (List.mem_filter.2 ⟨hd, by simpa using hy⟩)
  exact (List.length_pos_of_mem hmem).ne'

theorem mem_scoresOf {preds : List (Prediction S)} {y : ℤ} {p : Option S}
    (h : p ∈ scoresOf preds y) : ∃ d ∈ preds, d.p = p := by
  obtain ⟨d, hd, rfl⟩ := List.mem_map.1 h
  exact ⟨d, List.mem_of_mem_filter hd, rfl⟩

/-- Numbers are scores that are not `NaN`. -/
theorem scores_eq_map {scores : List (Option S)} (h : ∀ p ∈ scores, p.isSome) :
    ∃ xs : List S, scores = xs.map some := by
  induction scores with
  | nil => exact ⟨[], rfl⟩
  | cons p scores ih =>
    obtain ⟨x, rfl⟩ := Option.isSome_iff_exists.1 (h p List.mem_cons_self)
    obtain ⟨xs, rfl⟩ := ih fun p hp => h p (List.mem_cons_of_mem _ hp)
    exact ⟨x :: xs, rfl⟩

theorem scoresOf_eq_map {preds : List (Prediction S)} (h : ∀ d ∈ preds, d.p.isSome) (y : ℤ) :
    ∃ xs : List S, scoresOf preds y = xs.map some := by
  refine scores_eq_map fun p hp => ?_
  obtain ⟨d, hd, rfl⟩ := mem_scoresOf hp
  exact h d hd

theorem countP_product_some (xs ys : List S) (f : Option S × Option S → Bool) :
    (xs.map some ×ˢ ys.map some).countP f =
      (xs ×ˢ ys).countP fun d => f (some d.1, some d.2) := by
  induction xs with
  | nil => rfl
  | cons x xs ih =>
    rw [List.map_cons, List.product_cons, List.product_cons, List.countP_append,
      List.countP_append, ih, List.countP_map, List.countP_map, List.countP_map]
    rfl

variable [LinearOrder S]

/-- `a === c`. -/
def sameScore : Option S → Option S → Bool
  | some a, some c => a = c
  | _, _ => false

/-- `a - c > 0`. -/
def aboveScore : Option S → Option S → Bool
  | some a, some c => c < a
  | _, _ => false

/-- The loop over the sorted scores from the `i`-th on: the members of a block of equal scores
    share their average rank. -/
def rankBlocks : (fuel : ℕ) → (i : ℕ) → List (Option S) → Map (Option S) ℚ →
    Option (Map (Option S) ℚ)
  | _, _, [], rankOf => some rankOf
  | 0, _, _ :: _, _ => none
  | fuel + 1, i, x :: rest, rankOf =>
    let j := i + ((x :: rest).takeWhile fun c => sameScore c x).length
    rankBlocks fuel j ((x :: rest).dropWhile fun c => sameScore c x)
      (rankOf.set x (((i : ℚ) + 1 + (j : ℕ)) / 2))

/-- `all.sort((a, c) => a - c)`.  Of scores with a `NaN`, the language leaves the order open. -/
def sortScores (scores : List (Option S)) : List (Option S) :=
  scores.insertionSort fun a c => aboveScore a c = false

/-- Rank-based area under the ROC curve. -/
def auc (fuel : ℕ) (preds : List (Prediction S)) : Option ℚ :=
  let pos := scoresOf preds 1
  let neg := scoresOf preds 0
  if pos.length = 0 ∨ neg.length = 0 then some (1 / 2)
  else
    (rankBlocks fuel 0 (sortScores (preds.map Prediction.p)) Map.empty).bind fun rankOf =>
      (pos.mapM rankOf.get).map fun ranks =>
        let u := ranks.sum - ((pos.length : ℚ) * (pos.length + 1)) / 2
        u / (pos.length * neg.length)

/-! ## The loop -/

theorem rankBlocks_nil (fuel i : ℕ) (rankOf : Map (Option S) ℚ) :
    rankBlocks fuel i [] rankOf = some rankOf := by
  cases fuel <;> rfl

/-- No fuel is enough for a list with a `NaN`. -/
theorem rankBlocks_nan (fuel i : ℕ) {l : List (Option S)} (h : none ∈ l)
    (rankOf : Map (Option S) ℚ) : rankBlocks fuel i l rankOf = none := by
  induction fuel generalizing i l rankOf with
  | zero =>
    cases l with
    | nil => cases h
    | cons x rest => rfl
  | succ fuel ih =>
    cases l with
    | nil => cases h
    | cons x rest =>
      refine ih _ ?_ _
      rw [← List.takeWhile_append_dropWhile (p := fun c => sameScore c x) (l := x :: rest),
        List.mem_append] at h
      rcases h with h | h
      · exact absurd (List.mem_takeWhile_imp h) Bool.false_ne_true
      · exact h

theorem sameScore_some (x c : S) : sameScore (some c) (some x) = decide (c = x) := rfl

/-- The loop gives every number of a sorted list its rank: what it has gone through is `done`. -/
theorem rankBlocks_some {all : List S} (hsorted : all.Pairwise (· ≤ ·)) {fuel : ℕ}
    {done rest : List S} {rankOf : Map (Option S) ℚ} (hall : all = done ++ rest)
    (hfuel : rest.length ≤ fuel) (hlt : ∀ a ∈ done, ∀ b ∈ rest, a < b)
    (hdone : ∀ x ∈ done, rankOf.get (some x) = some (midrank all x)) :
    ∃ rankOf', rankBlocks fuel done.length (rest.map some) rankOf = some rankOf' ∧
      ∀ x ∈ all, rankOf'.get (some x) = some (midrank all x) := by
  induction fuel generalizing done rest rankOf with
  | zero =>
    obtain rfl : rest = [] := List.length_eq_zero_iff.1 (Nat.le_zero.1 hfuel)
    refine ⟨rankOf, rfl, ?_⟩
    rw [hall, List.append_nil]
    rw [hall, List.append_nil] at hdone
    exact hdone
  | succ fuel ih =>
    cases rest with
    | nil =>
      refine ⟨rankOf, rfl, ?_⟩
      rw [hall, List.append_nil]
      rw [hall, List.append_nil] at hdone
      exact hdone
    | cons x rest =>
      have hrest : (x :: rest).Pairwise (· ≤ ·) := by
        rw [hall] at hsorted
        exact (List.pairwise_append.1 hsorted).2.1
      have hle : ∀ y ∈ x :: rest, x ≤ y := by
        intro y hy
        rcases List.mem_cons.1 hy with rfl | hy
        · exact le_rfl
        · exact (List.pairwise_cons.1 hrest).1 y hy
      have hrank := midrank_block hrest fun a ha => hlt a ha x List.mem_cons_self
      rw [← hall] at hrank
      set block := (x :: rest).takeWhile fun c => decide (c = x) with hblock
      set tail := (x :: rest).dropWhile fun c => decide (c = x) with htail
      have hsplit : block ++ tail = x :: rest := List.takeWhile_append_dropWhile
      have hx : ∀ c ∈ block, c = x := fun c hc => by simpa using List.mem_takeWhile_imp hc
      have hstep : rankBlocks (fuel + 1) done.length ((x :: rest).map some) rankOf =
          rankBlocks fuel (done ++ block).length (tail.map some)
            (rankOf.set (some x) (midrank all x)) := by
        have htake : (((x :: rest).map some).takeWhile fun c => sameScore c (some x)) =
            block.map some := List.takeWhile_map ..
        have hdrop : (((x :: rest).map some).dropWhile fun c => sameScore c (some x)) =
            tail.map some := List.dropWhile_map ..
        rw [List.map_cons, rankBlocks, ← List.map_cons, htake, hdrop, List.length_map,
          List.length_append, hrank]
      rw [hstep]
      refine ih ?_ ?_ ?_ ?_
      · rw [hall, List.append_assoc, hsplit]
      · have hpos : 0 < block.length := by
          rw [hblock, List.takeWhile_cons_of_pos (by simp)]
          exact Nat.succ_pos _
        have hlen := congrArg List.length hsplit
        rw [List.length_append] at hlen
        omega
      · intro a ha b hb
        rcases List.mem_append.1 ha with ha | ha
        · exact hlt a ha b (hsplit ▸ List.mem_append_right block hb)
        · rw [hx a ha]
          exact lt_of_mem_dropWhile hrest hle hb
      · intro c hc
        by_cases hcx : c = x
        · rw [hcx, Map.get_set_self]
        · rw [Map.get_set_ne _ (by simpa using hcx)]
          rcases List.mem_append.1 hc with hc | hc
          · exact hdone c hc
          · exact absurd (hx c hc) hcx

/-! ## Pairs of examples -/

/-- How many pairs of a positive and a negative example are ranked correctly. -/
def correctPairs (preds : List (Prediction S)) : ℕ :=
  (scoresOf preds 1 ×ˢ scoresOf preds 0).countP fun d => aboveScore d.1 d.2

/-- How many pairs of a positive and a negative example are tied. -/
def tiedPairs (preds : List (Prediction S)) : ℕ :=
  (scoresOf preds 1 ×ˢ scoresOf preds 0).countP fun d => sameScore d.2 d.1

/-- The share of the pairs that are ranked correctly, ties by half. -/
def mannWhitney (preds : List (Prediction S)) : ℚ :=
  (correctPairs preds + (tiedPairs preds : ℚ) / 2) /
    ((scoresOf preds 1).length * (scoresOf preds 0).length)

/-- Of numbers, the pairs are those of two samples. -/
theorem gains_scoresOf {preds : List (Prediction S)} {xs ys : List S}
    (hpos : scoresOf preds 1 = xs.map some) (hneg : scoresOf preds 0 = ys.map some) :
    gains xs ys = correctPairs preds + (tiedPairs preds : ℚ) / 2 := by
  rw [gains_eq, correctPairs, tiedPairs, hpos, hneg, countP_product_some, countP_product_some]
  rfl

theorem sortScores_some (xs : List S) :
    sortScores (xs.map some) = (xs.insertionSort (· ≤ ·)).map some := by
  refine (List.map_insertionSort _ _ some xs fun a _ c _ => ?_).symm
  rw [aboveScore, decide_eq_false_iff_not, not_lt]

theorem mapM_get {rankOf : Map (Option S) ℚ} {f : S → ℚ} {xs : List S}
    (h : ∀ x ∈ xs, rankOf.get (some x) = some (f x)) :
    (xs.map some).mapM rankOf.get = some (xs.map f) := by
  induction xs with
  | nil => rfl
  | cons x xs ih =>
    rw [List.map_cons, List.mapM_cons, h x List.mem_cons_self,
      ih fun x' hx' => h x' (List.mem_cons_of_mem x hx')]
    rfl

section
variable {preds : List (Prediction S)} (hnum : ∀ d ∈ preds, d.p.isSome)
  (hlabel : ∀ d ∈ preds, d.y = 1 ∨ d.y = 0) (hpos : ∃ d ∈ preds, d.y = 1)
  (hneg : ∃ d ∈ preds, d.y = 0)

include hnum hlabel hpos hneg in
/-- Of numbers, `auc` is the share of the pairs that are ranked correctly. -/
theorem auc_eq {fuel : ℕ} (hfuel : preds.length ≤ fuel) :
    auc fuel preds = some (mannWhitney preds) := by
  obtain ⟨xs, hxs⟩ := scoresOf_eq_map hnum 1
  obtain ⟨ys, hys⟩ := scoresOf_eq_map hnum 0
  obtain ⟨scores, hall⟩ : ∃ scores : List S, preds.map Prediction.p = scores.map some := by
    refine scores_eq_map fun p hp => ?_
    obtain ⟨d, hd, rfl⟩ := List.mem_map.1 hp
    exact hnum d hd
  set all := scores.insertionSort (· ≤ ·) with hsort
  have hperm : all.Perm (xs ++ ys) := by
    have hmap := scoresOf_perm hlabel
    rw [hall, hxs, hys, ← List.map_append] at hmap
    exact (List.perm_insertionSort _ scores).trans
      ((List.map_perm_map_iff (Option.some_injective S)).1 hmap)
  have hlength : all.length ≤ fuel := by
    have h := congrArg List.length hall
    rw [List.length_map, List.length_map] at h
    rw [hsort, List.length_insertionSort]
    omega
  have hsorted : all.Pairwise (· ≤ ·) := List.pairwise_insertionSort _ scores
  obtain ⟨rankOf, hrank, hget⟩ :
      ∃ rankOf, rankBlocks fuel 0 (all.map some) Map.empty = some rankOf ∧
        ∀ x ∈ all, rankOf.get (some x) = some (midrank all x) :=
    rankBlocks_some hsorted (List.nil_append all).symm hlength (by simp) (by simp)
  have hranks : (scoresOf preds 1).mapM rankOf.get = some (xs.map (midrank all)) := by
    rw [hxs]
    exact mapM_get fun x hx => hget x (hperm.mem_iff.2 (List.mem_append_left ys hx))
  rw [auc, if_neg (by
    rintro (h | h)
    · exact scoresOf_ne_nil hpos h
    · exact scoresOf_ne_nil hneg h)]
  rw [hall, sortScores_some, ← hsort]
  rw [hrank, Option.bind_some, hranks, Option.map_some, mannWhitney, ← gains_scoresOf hxs hys,
    sum_midrank hperm, hxs, hys, List.length_map, List.length_map]
  congr 2
  ring

/-- The pairs do not depend on the order of the examples. -/
theorem mannWhitney_perm {preds preds' : List (Prediction S)} (h : preds.Perm preds') :
    mannWhitney preds = mannWhitney preds' := by
  have hpos := scoresOf_perm_of_perm h 1
  have hneg := scoresOf_perm_of_perm h 0
  have hpairs : (scoresOf preds 1 ×ˢ scoresOf preds 0).Perm
      (scoresOf preds' 1 ×ˢ scoresOf preds' 0) := hpos.product hneg
  rw [mannWhitney, mannWhitney, correctPairs, correctPairs, tiedPairs, tiedPairs,
    hpairs.countP_eq, hpairs.countP_eq, hpos.length_eq, hneg.length_eq]

include hnum in
/-- The pairs that are ranked correctly and half of the ties are no more than all pairs. -/
theorem mannWhitney_bounds : 0 ≤ mannWhitney preds ∧ mannWhitney preds ≤ 1 := by
  obtain ⟨xs, hxs⟩ := scoresOf_eq_map hnum 1
  obtain ⟨ys, hys⟩ := scoresOf_eq_map hnum 0
  have hle := gains_add_gains xs ys
  have hgains := gains_nonneg xs ys
  have hrest := gains_nonneg ys xs
  rw [mannWhitney, ← gains_scoresOf hxs hys, hxs, hys, List.length_map, List.length_map]
  constructor
  · positivity
  · exact div_le_one_of_le₀ (by linarith) (by positivity)

include hnum hlabel hpos hneg in
/-- **The area under the curve is the Mann-Whitney statistic**: the share of the pairs of a
    positive and a negative example that are ranked correctly, ties by half; it lies in `[0, 1]`
    and does not depend on the order of the list. -/
theorem auc_mannWhitney {fuel : ℕ} (hfuel : preds.length ≤ fuel) :
    auc fuel preds = some (mannWhitney preds) ∧ 0 ≤ mannWhitney preds ∧ mannWhitney preds ≤ 1 ∧
      ∀ preds' : List (Prediction S), preds'.Perm preds → auc fuel preds' = auc fuel preds := by
  refine ⟨auc_eq hnum hlabel hpos hneg hfuel, (mannWhitney_bounds hnum).1,
    (mannWhitney_bounds hnum).2, fun preds' h => ?_⟩
  have hpos' : ∃ d ∈ preds', d.y = 1 := by
    obtain ⟨d, hd, hy⟩ := hpos
    exact ⟨d, h.mem_iff.2 hd, hy⟩
  have hneg' : ∃ d ∈ preds', d.y = 0 := by
    obtain ⟨d, hd, hy⟩ := hneg
    exact ⟨d, h.mem_iff.2 hd, hy⟩
  rw [auc_eq hnum hlabel hpos hneg hfuel,
    auc_eq (fun d hd => hnum d (h.mem_iff.1 hd)) (fun d hd => hlabel d (h.mem_iff.1 hd)) hpos'
      hneg' (h.length_eq.le.trans hfuel), mannWhitney_perm h]

end

/-- A positive above, one tied with and one below a negative. -/
theorem auc_mannWhitney_ties :
    auc 4 [⟨some (3 : ℤ), 1⟩, ⟨some 2, 0⟩, ⟨some 2, 1⟩, ⟨some 1, 1⟩] = some (1 / 2) := by
  refine (auc_mannWhitney (by decide) (by decide) ⟨⟨some 3, 1⟩, by simp, rfl⟩
    ⟨⟨some 2, 0⟩, by simp, rfl⟩ (by decide)).1.trans (congrArg some ?_)
  have hcorrect : correctPairs [⟨some (3 : ℤ), 1⟩, ⟨some 2, 0⟩, ⟨some 2, 1⟩, ⟨some 1, 1⟩] = 1 := by
    decide
  have htied : tiedPairs [⟨some (3 : ℤ), 1⟩, ⟨some 2, 0⟩, ⟨some 2, 1⟩, ⟨some 1, 1⟩] = 1 := by
    decide
  rw [mannWhitney, hcorrect, htied]
  norm_num [scoresOf]

end AX10M
