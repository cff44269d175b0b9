/-
  What the estimator groups the observations into.

  `strataOf_entries`: the effective strata are those of the observations, in the order of their first
  ones, each with the observations of its arms.  `clusteredArmVariance_slice` is the variance of an
  arm in terms of its observations.  `measure_deltaPer` and `measure_se` are the difference and its
  standard error as sums over the strata.
-/
import AX10M.Attribution.Sequential
import AX10M.Js.Groups
import Mathlib.Algebra.BigOperators.Group.List.Basic
import Mathlib.Algebra.BigOperators.Group.List.Lemmas
import Mathlib.Data.Finset.Card
import Mathlib.Data.List.Induction

namespace AX10M

open Js Logs

/-! ## Sums and distinct texts -/

section

variable {α M : Type} [AddCommMonoid M]

theorem foldl_add_eq (f : α → M) (l : List α) (m : M) :
    l.foldl (fun s x => s + f x) m = m + (l.map f).sum := by
  induction l generalizing m with
  | nil => exact (add_zero m).symm
  | cons x l ih => rw [List.foldl_cons, ih, List.map_cons, List.sum_cons, add_assoc]

theorem foldl_add_zero (f : α → M) (l : List α) :
    l.foldl (fun s x => s + f x) 0 = (l.map f).sum := by
  rw [foldl_add_eq, zero_add]

end

theorem distinct_eq_firsts (xs : List String) : distinct xs = firsts id xs := by
  induction xs using List.reverseRecOn with
  | nil => rfl
  | append_singleton xs x ih =>
    have hstep : distinct (xs ++ [x]) =
        if x ∈ distinct xs then distinct xs else distinct xs ++ [x] := by
      rw [distinct, List.foldl_append]
      rfl
    rw [hstep, ih, firsts_keepNew, keepNew]
    simp only [id, exists_eq_right]

theorem mem_distinct {xs : List String} {x : String} : x ∈ distinct xs ↔ x ∈ xs := by
  have hfirst : (∃ y ∈ firsts id xs, id y = x) ↔ ∃ y ∈ xs, id y = x := exists_firsts_iff
  rw [distinct_eq_firsts]
  simpa using hfirst

/-- There are as many distinct texts as there are in the set. -/
theorem length_distinct (xs : List String) : (distinct xs).length = xs.toFinset.card := by
  have hnodup : (distinct xs).Nodup := by
    have hkeys := (groupBy (id : String → String) (fun n _ => n) 0 xs).nodup
    have hfirsts : (groupBy (id : String → String) (fun n _ => n) 0 xs).keys =
        (firsts id xs).map id := keys_groupBy
    rw [Map.keys, List.map_id, ← distinct_eq_firsts] at hfirsts
    rwa [hfirsts] at hkeys
  rw [← List.toFinset_card_of_nodup hnodup]
  congr 1
  ext x
  rw [List.mem_toFinset, List.mem_toFinset, mem_distinct]

section

variable {K : Type} [Field K]

theorem mean_eq (xs : List K) : mean xs = xs.sum / xs.length := by
  rw [mean]
  split_ifs with h
  · rw [h, List.sum_nil, zero_div]
  · rw [foldl_add_zero (fun x => x), List.map_id']

theorem mean_perm {xs ys : List K} (h : xs.Perm ys) : mean xs = mean ys := by
  rw [mean_eq, mean_eq, h.sum_eq, h.length_eq]

/-- The variance is the mean of the squares of the deviations. -/
theorem variance_eq (xs : List K) :
    variance xs = (xs.map fun x => (x - mean xs) ^ 2).sum / xs.length := by
  rw [variance]
  split_ifs with h
  · rw [h, List.map_nil, List.sum_nil, zero_div]
  · rw [foldl_add_zero fun x => (x - mean xs) ^ 2]

end

/-! ## The strata -/

section

variable {K : Type} (config : SequentialUpliftConfig K) (adj : UpliftObservation K → K)
  (observations : List (UpliftObservation K))

/-- An arm of some observations. -/
def sliceOf (os : List (UpliftObservation K)) : ArmSlice K :=
  ⟨os.map adj, os.map UpliftObservation.cluster, (os.filter UpliftObservation.recovered).length⟩

/-- The arms of some observations. -/
def cellOf (os : List (UpliftObservation K)) : Cell K :=
  ⟨sliceOf adj (ofArm .control os), sliceOf adj (ofArm .treatment os)⟩

/-- The effective stratum of an observation. -/
def effective (o : UpliftObservation K) : String := effStratum config observations o.stratum

/-- The observations of an effective stratum. -/
def inStratum (key : String) : List (UpliftObservation K) :=
  itemsOf (effective config observations) key observations

/-- Add an observation to its arm. -/
def pushObservation (cell : Cell K) (o : UpliftObservation K) : Cell K :=
  match o.arm with
  | .control => { cell with control := cell.control.push (adj o) o }
  | .treatment => { cell with treatment := cell.treatment.push (adj o) o }

variable {adj}

theorem sliceOf_concat (os : List (UpliftObservation K)) (o : UpliftObservation K) :
    sliceOf adj (os ++ [o]) = (sliceOf adj os).push (adj o) o := by
  simp only [sliceOf, ArmSlice.push, List.map_append, List.map_singleton, List.filter_append,
    List.length_append, ArmSlice.mk.injEq, true_and]
  cases h : o.recovered <;> simp [h]

/-- What observations that are added one by one make of the arms. -/
theorem foldl_pushObservation (os : List (UpliftObservation K)) :
    os.foldl (pushObservation adj) ⟨emptySlice, emptySlice⟩ = cellOf adj os := by
  induction os using List.reverseRecOn with
  | nil => rfl
  | append_singleton os o ih =>
    have hsnoc : ∀ arm, ofArm arm (os ++ [o]) =
        ofArm arm os ++ if o.arm = arm then [o] else [] := by
      intro arm
      rw [ofArm, List.filter_append, List.filter_singleton]
      by_cases h : o.arm = arm <;> simp [h, ofArm]
    rw [List.foldl_append, ih, List.foldl_cons, List.foldl_nil, pushObservation, cellOf, cellOf,
      hsnoc, hsnoc]
    cases h : o.arm <;> simp [sliceOf_concat]

variable (adj)

theorem strataOf_eq : strataOf config adj observations =
    groupBy (effective config observations) (pushObservation adj) ⟨emptySlice, emptySlice⟩
      observations := by
  rw [strataOf, groupBy]
  rfl

/-- The effective strata, with the arms of their observations. -/
theorem strataOf_entries : (strataOf config adj observations).entries =
    (strataOf config adj observations).keys.map fun key =>
      (key, cellOf adj (inStratum config observations key)) := by
  rw [strataOf_eq, entries_groupBy]
  simp only [foldl_pushObservation, inStratum]

theorem mem_strataOf_keys {key : String} : key ∈ (strataOf config adj observations).keys ↔
    ∃ o ∈ observations, effective config observations o = key := by
  rw [strataOf_eq]
  exact mem_keys_groupBy

end

/-! ## The variance of an arm -/

section

variable {K : Type} [Field K] (adj : UpliftObservation K → K)

/-- How far the clusters of some observations are off the mean. -/
def clusterResiduals (os : List (UpliftObservation K)) : Map String K :=
  groupBy UpliftObservation.cluster (fun s o => s + (adj o - mean (os.map adj))) 0 os

/-- The variance of an arm, by its observations. -/
theorem clusteredArmVariance_slice (os : List (UpliftObservation K)) :
    clusteredArmVariance (sliceOf adj os) =
      if os.length = 0 then 0 else
        ((clusterResiduals adj os).entries.map fun p => p.2 * p.2).sum / (os.length * os.length) *
          if (clusterResiduals adj os).keys.length > 1 then
            ((clusterResiduals adj os).keys.length : K) /
              ((clusterResiduals adj os).keys.length - 1 : ℕ)
          else 1 := by
  have hresiduals : ((sliceOf adj os).values.zip (sliceOf adj os).clusters).foldl
      (fun (m : Map String K) p => m.add p.2 (p.1 - mean (sliceOf adj os).values)) Map.empty =
      clusterResiduals adj os := by
    rw [sliceOf, List.zip_map', List.foldl_map]
    rfl
  rw [clusteredArmVariance]
  simp only [hresiduals]
  rw [foldl_add_zero fun r => r * r, Map.values, List.map_map, sliceOf, List.length_map]
  rfl

end

/-! ## The measurement -/

section

variable {K : Type} [Field K] [LinearOrder K]

/-- The outcome of an observation, adjusted if the configuration says so. -/
def adjust (config : SequentialUpliftConfig K) (cuped : CupedFit K) (o : UpliftObservation K) : K :=
  if config.useCuped then applyCuped o.outcome o.covariate cuped else o.outcome

/-- What a stratum adds to the difference. -/
def deltaTerm (treatedInvoices : ℕ) (p : String × Cell K) : K :=
  stratumWeight treatedInvoices p.2 * stratumDelta p.2

/-- What a stratum adds to the variance of the difference. -/
def varianceTerm (treatedInvoices : ℕ) (p : String × Cell K) : K :=
  stratumWeight treatedInvoices p.2 * stratumWeight treatedInvoices p.2 *
    (clusteredArmVariance p.2.treatment + clusteredArmVariance p.2.control)

variable [FloorRing K] (M : MathOps K) (observations : List (UpliftObservation K))
  (config : SequentialUpliftConfig K)

/-- The effective strata, on the outcomes as they are measured. -/
def measuredStrata : Map String (Cell K) :=
  strataOf config (adjust config (measure M observations config).cuped) observations

theorem measure_deltaPer : (measure M observations config).deltaPer =
    ((measuredStrata M observations config).entries.map
      (deltaTerm (ofArm .treatment observations).length)).sum := by
  rw [← foldl_add_zero]
  show (List.map Prod.snd _).foldl _ _ = _
  rw [List.foldl_map]
  rfl

theorem measure_se : (measure M observations config).se =
    M.sqrt (max 0 ((measuredStrata M observations config).entries.map
      (varianceTerm (ofArm .treatment observations).length)).sum) := by
  rw [← foldl_add_zero]
  show M.sqrt (max 0 ((List.map Prod.snd _).foldl _ _)) = _
  rw [List.foldl_map]
  rfl

theorem measure_perStratum : (measure M observations config).perStratum =
    (measuredStrata M observations config).entries.map
      (stratumLine (ofArm .treatment observations).length) := rfl

end

end AX10M
