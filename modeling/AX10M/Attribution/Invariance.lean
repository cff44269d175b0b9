/-
  The estimator on observations in another order, and under other names.

  What is read of the effective strata is the same up to the order and the names of the strata
  (`readings_relabel`), and the estimate depends on nothing else (`measure_relabel`), unless a
  stratum that meets the floor is called as the pooled one.

  `estimator_invariant_iff`: where there is such a stratum, a line is marked as pooled that does not
  collect the strata below the floor.
-/
import AX10M.Attribution.Renaming
import Mathlib.Algebra.BigOperators.Ring.Finset
import Mathlib.Data.Rat.Floor

namespace AX10M

open Js Logs

section

variable {K : Type} [Field K]

/-! ## The adjustment -/

/-- The adjustment is fitted to the pairs of outcomes and covariates in any order. -/
theorem fitCuped_relabel [LinearOrder K] (M : MathOps K) {ρ σ : String → String}
    {os os' : List (UpliftObservation K)} (h : os'.Perm (os.map (.relabel ρ σ))) :
    fitCuped M (os'.map UpliftObservation.outcome) (os'.map UpliftObservation.covariate) =
      fitCuped M (os.map UpliftObservation.outcome) (os.map UpliftObservation.covariate) := by
  have houtcomes : mean (os'.map UpliftObservation.outcome) =
      mean (os.map UpliftObservation.outcome) := mean_perm (map_relabel h fun o => rfl)
  have hcovariates : mean (os'.map UpliftObservation.covariate) =
      mean (os.map UpliftObservation.covariate) := mean_perm (map_relabel h fun o => rfl)
  have hsum : ∀ g : UpliftObservation K → K, (∀ o, g (o.relabel ρ σ) = g o) →
      (os'.map g).sum = (os.map g).sum := fun g hg => (map_relabel h hg).sum_eq
  unfold fitCuped
  simp only [List.zip_map', List.map_map, List.length_map, length_relabel h, houtcomes, hcovariates,
    foldl_add_zero fun d : K × K => d.1 * d.2, foldl_add_zero fun d : K × K => d.2 * d.2,
    foldl_add_zero fun d : K × K => d.1 * d.1, Function.comp_def]
  rw [hsum _ fun o => rfl, hsum _ fun o => rfl, hsum _ fun o => rfl]

/-! ## What is read of a stratum -/

/-- Arms that read the same. -/
structure SameSlice (s s' : ArmSlice K) : Prop where
  length : s.values.length = s'.values.length
  mean : mean s.values = mean s'.values
  clusters : (distinct s.clusters).length = (distinct s'.clusters).length
  recovered : s.recovered = s'.recovered
  variance : clusteredArmVariance s = clusteredArmVariance s'

theorem clusterResiduals_relabel {ρ σ : String → String} {adj adj' : UpliftObservation K → K}
    {os os' : List (UpliftObservation K)} (hσ : σ.Injective)
    (h : os'.Perm (os.map (.relabel ρ σ))) (hadj : ∀ o, adj' (o.relabel ρ σ) = adj o) :
    ((clusterResiduals adj' os').entries.map fun p => p.2 * p.2).Perm
      ((clusterResiduals adj os).entries.map fun p => p.2 * p.2) := by
  have hmean : mean (os'.map adj') = mean (os.map adj) := mean_perm (map_relabel h hadj)
  -- the same order, under the new names
  have hnames : (groupBy UpliftObservation.cluster
      (fun s o => s + (adj' o - mean (os.map adj))) 0 (os.map (.relabel ρ σ))).entries =
      (groupBy UpliftObservation.cluster
        (fun s o => s + (adj o - mean (os.map adj))) 0 os).entries.map fun p => (σ p.1, p.2) :=
    entries_relabel (fun o _ => rfl) (fun o _ o' _ heq => hσ heq) (fun b o _ => by rw [hadj])
  have hsame : (clusterResiduals adj os).entries.map (fun p => p.2 * p.2) =
      (groupBy UpliftObservation.cluster (fun s o => s + (adj' o - mean (os.map adj))) 0
        (os.map (.relabel ρ σ))).entries.map fun p => p.2 * p.2 := by
    rw [hnames, List.map_map]
    rfl
  rw [hsame, clusterResiduals, hmean]
  refine entries_perm h fun k => ?_
  rw [foldl_add_eq fun o => adj' o - mean (os.map adj),
    foldl_add_eq fun o => adj' o - mean (os.map adj), ((itemsOf_perm h k).map _).sum_eq]

/-- An arm reads the same in another order and under other names. -/
theorem sliceOf_relabel {ρ σ : String → String} {adj adj' : UpliftObservation K → K}
    {os os' : List (UpliftObservation K)} (hσ : σ.Injective)
    (h : os'.Perm (os.map (.relabel ρ σ))) (hadj : ∀ o, adj' (o.relabel ρ σ) = adj o) :
    SameSlice (sliceOf adj' os') (sliceOf adj os) where
  length := (map_relabel h hadj).length_eq
  mean := mean_perm (map_relabel h hadj)
  clusters := clusters_relabel hσ h
  recovered := recovered_relabel h
  variance := by
    have hresiduals := clusterResiduals_relabel hσ h hadj
    have hkeys : (clusterResiduals adj' os').keys.length =
        (clusterResiduals adj os).keys.length := by
      have hlength := hresiduals.length_eq
      rw [List.length_map, List.length_map] at hlength
      rwa [Map.keys, Map.keys, List.length_map, List.length_map]
    rw [clusteredArmVariance_slice, clusteredArmVariance_slice, length_relabel h, hkeys,
      hresiduals.sum_eq]

/-- What is read of a stratum: its line, what it adds to the difference and to its variance, and
    whether it can be estimated. -/
def reading (treatedInvoices : ℕ) (p : String × Cell K) : StratumLine K × K × K × Bool :=
  (stratumLine treatedInvoices p, deltaTerm treatedInvoices p, varianceTerm treatedInvoices p,
    unestimable p.2)

theorem reading_congr (treatedInvoices : ℕ) {key : String} {cell cell' : Cell K}
    (hcontrol : SameSlice cell'.control cell.control)
    (htreatment : SameSlice cell'.treatment cell.treatment) :
    reading treatedInvoices (key, cell') = reading treatedInvoices (key, cell) := by
  simp only [reading, stratumLine, deltaTerm, varianceTerm, unestimable, stratumWeight,
    stratumDelta, hcontrol.length, hcontrol.mean, hcontrol.clusters, hcontrol.recovered,
    hcontrol.variance, htreatment.length, htreatment.mean, htreatment.clusters,
    htreatment.recovered, htreatment.variance]

theorem reading_rename (treatedInvoices : ℕ) {τ : String → String} {key : String} (cell : Cell K)
    (hkey : τ key = pooledKey ↔ key = pooledKey) :
    reading treatedInvoices (τ key, cell) =
      ((stratumLine treatedInvoices (key, cell)).rename τ,
        (reading treatedInvoices (key, cell)).2) := by
  simp only [reading, stratumLine, StratumLine.rename, ne_eq, hkey]
  rfl

end

/-! ## The measurement -/

section

variable {K : Type} [Field K] [LinearOrder K] [FloorRing K] {M : MathOps K}
  {ρ σ τ : String → String} {observations observations' : List (UpliftObservation K)}
  {config : SequentialUpliftConfig K}

/-- What is read of the effective strata. -/
def readings (M : MathOps K) (observations : List (UpliftObservation K))
    (config : SequentialUpliftConfig K) : List (StratumLine K × K × K × Bool) :=
  (measuredStrata M observations config).entries.map
    (reading (ofArm .treatment observations).length)

theorem measure_cuped_relabel (h : observations'.Perm (observations.map (.relabel ρ σ))) :
    (measure M observations' config).cuped = (measure M observations config).cuped := by
  have hmean : mean (observations'.map UpliftObservation.covariate) =
      mean (observations.map UpliftObservation.covariate) := mean_perm (map_relabel h fun o => rfl)
  show (if config.useCuped then _ else _) = if config.useCuped then _ else _
  rw [fitCuped_relabel M h, hmean]

/-- What is read of the effective strata in another order and under other names. -/
theorem readings_relabel (h : Renamed config observations observations' ρ σ τ) :
    (readings M observations' config).Perm
      ((readings M observations config).map fun r => (r.1.rename τ, r.2)) := by
  have hadj : ∀ o : UpliftObservation K, adjust config (measure M observations config).cuped
      (o.relabel ρ σ) = adjust config (measure M observations config).cuped o := fun o => rfl
  have hkeys : (measuredStrata M observations' config).keys.Perm
      ((measuredStrata M observations config).keys.map τ) := by
    have hnamed : ∀ {β β' : Type} (push : β → UpliftObservation K → β) (init : β)
        (push' : β' → UpliftObservation K → β') (init' : β'),
        (groupBy (effective config observations') push' init'
          (observations.map (.relabel ρ σ))).keys =
          (groupBy (effective config observations) push init observations).keys.map τ :=
      fun _ _ _ _ => keys_relabel h.effective h.inj
    rw [measuredStrata, measuredStrata, strataOf_eq, strataOf_eq,
      ← hnamed _ _ (fun n _ => n) (0 : ℕ)]
    exact keys_perm h.perm
  rw [readings, readings, measuredStrata, measuredStrata, strataOf_entries, strataOf_entries,
    List.map_map, List.map_map, List.map_map, measure_cuped_relabel h.perm]
  rw [measuredStrata, measuredStrata, measure_cuped_relabel h.perm] at hkeys
  refine (hkeys.map _).trans (List.Perm.of_eq ?_)
  rw [List.map_map]
  refine List.map_congr_left fun key hkey => ?_
  have hkey' := (mem_strataOf_keys config _ observations).1 hkey
  have hstratum := h.inStratum hkey'
  obtain ⟨o, ho, rfl⟩ := hkey'
  have hreading : ∀ (n : ℕ) (key : String),
      reading n (key, cellOf (adjust config (measure M observations config).cuped)
        (inStratum config observations' (τ (effective config observations o)))) =
      reading n (key, cellOf (adjust config (measure M observations config).cuped)
        (inStratum config observations (effective config observations o))) := fun n key =>
    reading_congr n
    (sliceOf_relabel h.clusters (ofArm_relabel hstratum .control) hadj)
    (sliceOf_relabel h.clusters (ofArm_relabel hstratum .treatment) hadj)
  simp only [Function.comp_apply]
  rw [length_relabel (ofArm_relabel h.perm .treatment), hreading]
  exact reading_rename _ _ (h.pooled o ho)

/-- The gates that are not passed. -/
def failedGates (config : SequentialUpliftConfig K) (controlClusters treatedInvoices : ℕ)
    (se lowerPer : K) (srm : Number K × Bool) (someUnestimable belowFloor : Bool) : List String :=
  gate (controlClusters < config.minControlClusters)
    s!"control customers {controlClusters} < {config.minControlClusters}" ++
  gate (treatedInvoices < config.minTreatedInvoices)
    s!"treated invoices {treatedInvoices} < {config.minTreatedInvoices}" ++
  gate (se ≤ 0) "standard error unestimable (insufficient variation)" ++
  gate someUnestimable "a stratum has an empty arm or <2 clusters (variance unestimable)" ++
  gate (lowerPer ≤ 0) "lower bound not yet positive (lift unproven)" ++
  gate srm.2 ("SRM breached (χ²=" ++ srm.1.toFixed2 ++ ")") ++
  gate belowFloor "pooled residual stratum below floor"

theorem measure_gateReasons : (measure M observations config).gateReasons =
    failedGates config (measure M observations config).controlClusters
      (measure M observations config).treatedInvoices (measure M observations config).se
      (measure M observations config).lowerPer (measure M observations config).srm
      ((measuredStrata M observations config).values.any unestimable)
      (pooledBelowFloor config (measure M observations config).perStratum) := rfl

theorem measure_lines : (measure M observations config).perStratum =
    (readings M observations config).map Prod.fst := by
  rw [measure_perStratum, readings, List.map_map]
  rfl

/-- The lines in another order and under other names. -/
theorem perStratum_relabel (h : Renamed config observations observations' ρ σ τ) :
    (measure M observations' config).perStratum.Perm
      ((measure M observations config).perStratum.map (.rename τ)) := by
  rw [measure_lines, measure_lines, List.map_map]
  have hreadings := (readings_relabel (M := M) h).map Prod.fst
  rwa [List.map_map] at hreadings

theorem measure_effectiveN : (measure M observations config).effectiveN =
    if variance (observations.map (adjust config (measure M observations config).cuped)) > 0 ∧
      (measure M observations config).se > 0 then
      variance (observations.map (adjust config (measure M observations config).cuped)) /
        ((measure M observations config).se * (measure M observations config).se)
    else 0 := rfl

theorem measure_lowerPer : (measure M observations config).lowerPer =
    max 0 ((measure M observations config).deltaPer -
      (measure M observations config).halfWidth) := rfl

theorem srm_relabel (hσ : σ.Injective)
    (h : observations'.Perm (observations.map (.relabel ρ σ))) :
    (measure M observations' config).srm = (measure M observations config).srm := by
  show srmCheck _ _ _ _ = srmCheck _ _ _ _
  rw [clusters_relabel hσ (ofArm_relabel h .control),
    clusters_relabel hσ (ofArm_relabel h .treatment)]

omit [LinearOrder K] [FloorRing K] in
theorem rate_relabel (h : observations'.Perm (observations.map (.relabel ρ σ))) (arm : Bucket) :
    (rate ((ofArm arm observations').filter UpliftObservation.recovered).length
      (ofArm arm observations').length : K) =
    rate ((ofArm arm observations).filter UpliftObservation.recovered).length
      (ofArm arm observations).length := by
  rw [recovered_relabel (ofArm_relabel h arm), length_relabel (ofArm_relabel h arm)]

theorem variance_relabel (h : observations'.Perm (observations.map (.relabel ρ σ))) :
    variance (observations'.map (adjust config (measure M observations' config).cuped)) =
      variance (observations.map (adjust config (measure M observations config).cuped)) := by
  have hperm : (observations'.map (adjust config (measure M observations config).cuped)).Perm
      (observations.map (adjust config (measure M observations config).cuped)) :=
    map_relabel h fun o => rfl
  rw [measure_cuped_relabel h, variance_eq, variance_eq, mean_perm hperm, (hperm.map _).sum_eq,
    hperm.length_eq]

section

variable (h : Renamed config observations observations' ρ σ τ)

include h

theorem deltaPer_relabel :
    (measure M observations' config).deltaPer = (measure M observations config).deltaPer := by
  have hsum := ((readings_relabel (M := M) h).map fun r => r.2.1).sum_eq
  rw [readings, readings, List.map_map, List.map_map, List.map_map] at hsum
  rw [measure_deltaPer, measure_deltaPer]
  exact hsum

theorem se_relabel : (measure M observations' config).se = (measure M observations config).se := by
  have hsum := ((readings_relabel (M := M) h).map fun r => r.2.2.1).sum_eq
  rw [readings, readings, List.map_map, List.map_map, List.map_map] at hsum
  rw [measure_se, measure_se]
  exact congrArg (fun v => M.sqrt (max 0 v)) hsum

theorem unestimable_relabel : (measuredStrata M observations' config).values.any unestimable =
    (measuredStrata M observations config).values.any unestimable := by
  have hany := (readings_relabel (M := M) h).any_eq (f := fun r => r.2.2.2)
  rw [readings, readings, List.any_map, List.any_map, List.any_map] at hany
  rw [Map.values, Map.values, List.any_map, List.any_map]
  exact hany

/-- But for the lines of the strata, the measurement is the same. -/
theorem measure_relabel : { measure M observations' config with perStratum := [] } =
    { measure M observations config with perStratum := [] } := by
  have hcuped : (measure M observations' config).cuped = (measure M observations config).cuped :=
    measure_cuped_relabel h.perm
  have hdelta := deltaPer_relabel (M := M) h
  have hse := se_relabel (M := M) h
  have hbelow : pooledBelowFloor config (measure M observations' config).perStratum =
      pooledBelowFloor config (measure M observations config).perStratum :=
    pooledBelowFloor_relabel (perStratum_relabel h)
  have htreated : (measure M observations' config).treatedInvoices =
      (measure M observations config).treatedInvoices :=
    length_relabel (ofArm_relabel h.perm .treatment)
  have hcontrol : (measure M observations' config).controlClusters =
      (measure M observations config).controlClusters :=
    clusters_relabel h.clusters (ofArm_relabel h.perm .control)
  have hsrm : (measure M observations' config).srm = (measure M observations config).srm :=
    srm_relabel h.clusters h.perm
  have heffective : (measure M observations' config).effectiveN =
      (measure M observations config).effectiveN := by
    rw [measure_effectiveN, measure_effectiveN, variance_relabel h.perm, hse]
  have hhalf : (measure M observations' config).halfWidth =
      (measure M observations config).halfWidth :=
    congrArg (fun se => msprtHalfWidthFromSe M se config.tau2 config.alpha) hse
  have hlower : (measure M observations' config).lowerPer =
      (measure M observations config).lowerPer := by
    rw [measure_lowerPer, measure_lowerPer, hdelta, hhalf]
  have hgates : (measure M observations' config).gateReasons =
      (measure M observations config).gateReasons := by
    rw [measure_gateReasons, measure_gateReasons, hcontrol, htreated, hse, hlower, hsrm,
      unestimable_relabel h, hbelow]
  have hrates : (measure M observations' config).controlRate =
      (measure M observations config).controlRate ∧
      (measure M observations' config).treatmentRate =
      (measure M observations config).treatmentRate :=
    ⟨rate_relabel h.perm .control, rate_relabel h.perm .treatment⟩
  simp only [hcuped, hdelta, hse, heffective, hhalf, hlower, htreated, hcontrol, hsrm, hgates,
    hrates.1, hrates.2]

end

/-! ## The partition -/

/-- Each observation is counted in one line of the strata, and the lines weigh 1 in all. -/
structure Partitioned (config : SequentialUpliftConfig K)
    (observations : List (UpliftObservation K)) (lines : List (StratumLine K)) : Prop where
  nodup : (lines.map StratumLine.stratumKey).Nodup
  counted : ∀ o ∈ observations, ∃! l, l ∈ lines ∧ l.stratumKey = effective config observations o
  control : ∀ l ∈ lines,
    l.controlInvoices = (ofArm .control (inStratum config observations l.stratumKey)).length
  treatment : ∀ l ∈ lines,
    l.treatmentInvoices = (ofArm .treatment (inStratum config observations l.stratumKey)).length
  controls : (lines.map StratumLine.controlInvoices).sum = (ofArm .control observations).length
  treatments : (lines.map StratumLine.treatmentInvoices).sum =
    (ofArm .treatment observations).length
  weights : 0 < (ofArm .treatment observations).length →
    (lines.map StratumLine.weight).sum = 1

/-- The lines that are marked as pooled are those that collect the strata below the floor. -/
def PooledMarked (config : SequentialUpliftConfig K) (observations : List (UpliftObservation K))
    (lines : List (StratumLine K)) : Prop :=
  ∀ l ∈ lines, l.pooled ↔ ∀ o ∈ observations,
    (effective config observations o = l.stratumKey ↔ ¬ MeetsFloor config observations o.stratum)

/-- The lines by the keys of the effective strata. -/
theorem perStratum_eq : (measure M observations config).perStratum =
    (measuredStrata M observations config).keys.map fun key =>
      stratumLine (ofArm .treatment observations).length
        (key, cellOf (adjust config (measure M observations config).cuped)
          (inStratum config observations key)) := by
  rw [measure_perStratum, measuredStrata, strataOf_entries, List.map_map]
  rfl

theorem perStratum_keys : (measure M observations config).perStratum.map StratumLine.stratumKey =
    (measuredStrata M observations config).keys := by
  rw [perStratum_eq, List.map_map]
  exact List.map_id _

/-- What the strata have of an arm is all of the arm. -/
theorem sum_ofArm (arm : Bucket) : ((measuredStrata M observations config).keys.map fun key =>
    (ofArm arm (inStratum config observations key)).length).sum =
      (ofArm arm observations).length := by
  have hcount : ∀ os : List (UpliftObservation K),
      (ofArm arm os).length = os.countP fun o => o.arm = arm :=
    fun os => List.countP_eq_length_filter.symm
  simp only [hcount]
  exact sum_countP_itemsOf _ (measuredStrata M observations config).nodup fun o ho =>
    (mem_strataOf_keys config _ observations).2 ⟨o, ho, rfl⟩

theorem partitioned [IsStrictOrderedRing K] :
    Partitioned config observations (measure M observations config).perStratum where
  nodup := by
    rw [perStratum_keys]
    exact (measuredStrata M observations config).nodup
  counted o ho := by
    have hkey : effective config observations o ∈
        (measure M observations config).perStratum.map StratumLine.stratumKey := by
      rw [perStratum_keys]
      exact (mem_strataOf_keys config _ observations).2 ⟨o, ho, rfl⟩
    obtain ⟨l, hl, hlkey⟩ := List.mem_map.1 hkey
    refine ⟨l, ⟨hl, hlkey⟩, ?_⟩
    rintro l' ⟨hl', hlkey'⟩
    have hnodup : ((measure M observations config).perStratum.map
        StratumLine.stratumKey).Nodup := by
      rw [perStratum_keys]
      exact (measuredStrata M observations config).nodup
    exact List.inj_on_of_nodup_map hnodup hl' hl (hlkey'.trans hlkey.symm)
  control l hl := by
    rw [perStratum_eq] at hl
    obtain ⟨key, -, rfl⟩ := List.mem_map.1 hl
    exact List.length_map _
  treatment l hl := by
    rw [perStratum_eq] at hl
    obtain ⟨key, -, rfl⟩ := List.mem_map.1 hl
    exact List.length_map _
  controls := by
    have hsum : ((measuredStrata M observations config).keys.map fun key =>
        (ofArm .control (inStratum config observations key)).length).sum = _ := sum_ofArm .control
    rw [← hsum, perStratum_eq, List.map_map]
    exact congrArg List.sum (List.map_congr_left fun key _ => List.length_map _)
  treatments := by
    have hsum : ((measuredStrata M observations config).keys.map fun key =>
        (ofArm .treatment (inStratum config observations key)).length).sum = _ :=
      sum_ofArm .treatment
    rw [← hsum, perStratum_eq, List.map_map]
    exact congrArg List.sum (List.map_congr_left fun key _ => List.length_map _)
  weights hpos := by
    have hne : ((ofArm .treatment observations).length : K) ≠ 0 := Nat.cast_ne_zero.2 hpos.ne'
    have hweight : (measure M observations config).perStratum.map StratumLine.weight =
        (measuredStrata M observations config).keys.map fun key =>
          ((ofArm .treatment (inStratum config observations key)).length : K) *
            ((ofArm .treatment observations).length : K)⁻¹ := by
      rw [perStratum_eq, List.map_map]
      refine List.map_congr_left fun key _ => ?_
      show stratumWeight _ _ = _
      rw [stratumWeight, if_pos hpos, div_eq_mul_inv]
      congr 2
      exact List.length_map _
    have hsum : ((measuredStrata M observations config).keys.map fun key =>
        (ofArm .treatment (inStratum config observations key)).length).sum = _ :=
      sum_ofArm .treatment
    have hcast : ((measuredStrata M observations config).keys.map fun key =>
        ((ofArm .treatment (inStratum config observations key)).length : K)).sum =
        ((ofArm .treatment observations).length : K) := by
      rw [← hsum, Nat.cast_list_sum, List.map_map]
      rfl
    rw [hweight, List.sum_map_mul_right, hcast, mul_inv_cancel₀ hne]

/-- The lines are marked as they should if no name is reserved. -/
theorem pooledMarked_iff :
    PooledMarked config observations (measure M observations config).perStratum ↔
      ¬ ReservedName config observations := by
  have hmem : ∀ key, key ∈ (measuredStrata M observations config).keys ↔
      ∃ o ∈ observations, effective config observations o = key :=
    fun key => mem_strataOf_keys config _ observations
  rw [PooledMarked, perStratum_eq]
  constructor
  · rintro hmarked ⟨hmeets, o, ho, hname⟩
    have heff : effective config observations o = pooledKey := by
      rw [effective, hname]
      exact effStratum_of_meetsFloor hmeets
    have hline := (hmarked _ (List.mem_map.2 ⟨pooledKey, (hmem _).2 ⟨o, ho, heff⟩, rfl⟩)).1
      (decide_eq_true (rfl : pooledKey = pooledKey)) o ho
    exact hline.1 heff (hname ▸ hmeets)
  · intro hname l hl
    obtain ⟨key, hkey, rfl⟩ := List.mem_map.1 hl
    show decide (key = pooledKey) = true ↔ ∀ o ∈ observations,
      (effective config observations o = key ↔ ¬ MeetsFloor config observations o.stratum)
    rw [decide_eq_true_eq]
    constructor
    · rintro rfl o ho
      exact effective_eq_pooledKey hname ho
    · intro hall
      obtain ⟨o, ho, rfl⟩ := (hmem key).1 hkey
      exact (effective_eq_pooledKey hname ho).2 ((hall o ho).1 rfl)

/-- But for the order and the names of the lines, the results are the same. -/
def SameEstimate (τ : String → String) (r r' : BillableUpliftResult K) : Prop :=
  { r' with perStratum := [] } = { r with perStratum := [] } ∧
    r'.perStratum.Perm (r.perStratum.map (.rename τ))

theorem settle_congr {m m' : Measurement K}
    (h : { m' with perStratum := [] } = { m with perStratum := [] }) (feeRate : K) (prior : ℚ) :
    { settle m' feeRate prior with perStratum := [] } =
      { settle m feeRate prior with perStratum := [] } := by
  have hsettle : ∀ m : Measurement K, { settle m feeRate prior with perStratum := [] } =
      settle { m with perStratum := [] } feeRate prior := fun m => rfl
  rw [hsettle, hsettle, h]

theorem sameEstimate (h : Renamed config observations observations' ρ σ τ) (prior : ℚ) :
    SameEstimate τ (settle (measure M observations config) config.feeRate prior)
      (settle (measure M observations' config) config.feeRate prior) :=
  ⟨settle_congr (measure_relabel h) _ _, perStratum_relabel h⟩

end

/-- For all observations: in any order the estimate is the same.  Under other names it is the same,
    every observation is counted in one line, the weights come to 1, and the lines that are marked
    as pooled are those of the strata below the floor, if and only if no stratum that meets the
    floor has the reserved name. -/
theorem estimator_invariant_iff {K : Type} [Field K] [LinearOrder K] [IsStrictOrderedRing K]
    [FloorRing K] {M : MathOps K} {config : SequentialUpliftConfig K} {priorBilledDollars : ℚ}
    {observations : List (UpliftObservation K)} {r : BillableUpliftResult K}
    (hr : computeBillableUplift M observations config priorBilledDollars = .ok r) :
    (∀ observations' r', observations'.Perm observations →
      computeBillableUplift M observations' config priorBilledDollars = .ok r' →
      SameEstimate id r r') ∧
    ∀ (ρ σ : String → String) observations' r', ρ.Injective → σ.Injective →
      observations'.Perm (observations.map (.relabel ρ σ)) →
      computeBillableUplift M observations' config priorBilledDollars = .ok r' →
      (SameEstimate (renameEffective ρ) r r' ∧
        (Partitioned config observations r.perStratum ∧
          PooledMarked config observations r.perStratum) ∧
        (Partitioned config observations' r'.perStratum ∧
          PooledMarked config observations' r'.perStratum) ↔
      ¬ ReservedName config observations ∧ ¬ ReservedName config observations') := by
  obtain ⟨-, rfl⟩ := computeBillableUplift_ok.1 hr
  refine ⟨?_, ?_⟩
  · intro observations' r' h hr'
    obtain ⟨-, rfl⟩ := computeBillableUplift_ok.1 hr'
    exact sameEstimate (renamed_of_perm h) _
  · intro ρ σ observations' r' hρ hσ h hr'
    obtain ⟨-, rfl⟩ := computeBillableUplift_ok.1 hr'
    constructor
    · rintro ⟨-, ⟨-, hmarked⟩, -, hmarked'⟩
      exact ⟨pooledMarked_iff.1 hmarked, pooledMarked_iff.1 hmarked'⟩
    · rintro ⟨hname, hname'⟩
      exact ⟨sameEstimate (renamed_of_injective hρ hσ h hname hname') _,
        ⟨partitioned, pooledMarked_iff.2 hname⟩, partitioned, pooledMarked_iff.2 hname'⟩

namespace Sample

/-- A square root for the few invoices below. -/
def fewOps : MathOps ℚ := ⟨fun x => if x = 10000 then 100 else 0, fun _ => 0, fun _ => ""⟩

/-- One invoice per arm is enough. -/
def fewConfig : SequentialUpliftConfig ℚ :=
  { defaultSequentialConfig ℚ with perStratumFloor := 1, useCuped := false }

def invoiceOf (arm : Bucket) (cluster stratum : String) (outcome : ℚ) : UpliftObservation ℚ :=
  ⟨arm, cluster, stratum, outcome, 100, true⟩

/-- A stratum called as the pooled one has an invoice in each arm, another stratum has not. -/
def few : List (UpliftObservation ℚ) :=
  [invoiceOf .control "cus_1" pooledKey 50, invoiceOf .treatment "cus_2" pooledKey 100,
    invoiceOf .treatment "cus_3" "b" 300]

/-- The strata `a` and `__pooled__` swap names. -/
def swapNames : String → String := Equiv.swap pooledKey "a"

theorem swapNames_injective : swapNames.Injective := (Equiv.swap pooledKey "a").injective

theorem fewConfig_admitted : configError fewOps fewConfig = none := by decide +kernel

theorem few_computed (os : List (UpliftObservation ℚ)) :
    computeBillableUplift fewOps os fewConfig 0 =
      .ok (settle (measure fewOps os fewConfig) fewConfig.feeRate 0) :=
  computeBillableUplift_ok.2 ⟨fewConfig_admitted, rfl⟩

end Sample

/-- The invoices in the reverse order. -/
theorem estimator_invariant_reverse :
    SameEstimate id (settle (measure Sample.fewOps Sample.few Sample.fewConfig)
        Sample.fewConfig.feeRate 0)
      (settle (measure Sample.fewOps Sample.few.reverse Sample.fewConfig)
        Sample.fewConfig.feeRate 0) :=
  (estimator_invariant_iff (Sample.few_computed Sample.few)).1 _ _ (List.reverse_perm _)
    (Sample.few_computed _)

/-- The stratum that meets the floor is pooled with the one that does not, until it is called
    otherwise: then the difference is another one. -/
theorem estimator_invariant_fails : Sample.swapNames.Injective ∧
    ∃ r r', computeBillableUplift Sample.fewOps Sample.few Sample.fewConfig 0 = .ok r ∧
      computeBillableUplift Sample.fewOps (Sample.few.map (.relabel Sample.swapNames id))
        Sample.fewConfig 0 = .ok r' ∧
      r.perStratum.map (fun l => (l.stratumKey, l.pooled, l.treatmentInvoices)) =
        [("__pooled__", true, 2)] ∧ r.deltaPer = 150 ∧
      r'.perStratum.map (fun l => (l.stratumKey, l.pooled, l.treatmentInvoices)) =
        [("a", false, 1), ("__pooled__", true, 1)] ∧ r'.deltaPer = 175 := by
  refine ⟨Sample.swapNames_injective, _, _, Sample.few_computed _, Sample.few_computed _, ?_⟩
  decide +kernel

end AX10M
