/-
  Observations in another order, and under other names of strata and clusters.

  `Renamed`: the effective strata are the same under new names.  They are, unless a stratum that meets
  the floor is called as the pooled one (`renamed_of_injective`), and in another order they always
  are (`renamed_of_perm`).
-/
import AX10M.Attribution.Strata

namespace AX10M

open Js Logs

/-! ## Names -/

section

variable {K : Type}

/-- The observation under other names of its stratum and its cluster. -/
def UpliftObservation.relabel (ρ σ : String → String) (o : UpliftObservation K) :
    UpliftObservation K :=
  { o with stratum := ρ o.stratum, cluster := σ o.cluster }

/-- The line under another name of its stratum. -/
def StratumLine.rename (ρ : String → String) (l : StratumLine K) : StratumLine K :=
  { l with stratumKey := ρ l.stratumKey }

theorem pooledBelowFloor_relabel {ρ : String → String} {config : SequentialUpliftConfig K}
    {lines lines' : List (StratumLine K)}
    (h : lines'.Perm (lines.map (.rename ρ))) :
    pooledBelowFloor config lines' = pooledBelowFloor config lines := by
  rw [pooledBelowFloor, h.any_eq, List.any_map]
  rfl

/-- The effective stratum under another name. -/
def renameEffective (ρ : String → String) (key : String) : String :=
  if key = pooledKey then pooledKey else ρ key

section

variable (config : SequentialUpliftConfig K) (observations : List (UpliftObservation K))

/-- The stratum has enough invoices in each arm. -/
def MeetsFloor (key : String) : Prop :=
  ∀ arm, config.perStratumFloor ≤
    (ofArm arm (observations.filter fun o => o.stratum = key)).length

/-- A stratum that meets the floor is called as the pooled one. -/
def ReservedName : Prop :=
  MeetsFloor config observations pooledKey ∧ ∃ o ∈ observations, o.stratum = pooledKey

variable {config observations}

theorem effStratum_of_meetsFloor {key : String} (h : MeetsFloor config observations key) :
    effStratum config observations key = key := if_pos ⟨h .control, h .treatment⟩

theorem effStratum_of_not_meetsFloor {key : String} (h : ¬ MeetsFloor config observations key) :
    effStratum config observations key = pooledKey := by
  refine if_neg fun hboth => h ?_
  intro arm
  cases arm with
  | control => exact hboth.1
  | treatment => exact hboth.2

/-- An effective stratum that is called as the pooled one is the pooled one. -/
theorem effective_eq_pooledKey (hname : ¬ ReservedName config observations)
    {o : UpliftObservation K} (ho : o ∈ observations) :
    effective config observations o = pooledKey ↔ ¬ MeetsFloor config observations o.stratum := by
  rw [effective]
  constructor
  · intro heff hmeets
    rw [effStratum_of_meetsFloor hmeets] at heff
    exact hname ⟨heff ▸ hmeets, o, ho, heff⟩
  · exact effStratum_of_not_meetsFloor

end

end

/-! ## Another order, and other names -/

section

variable {K : Type} {ρ σ : String → String} {os os' : List (UpliftObservation K)}

theorem ofArm_relabel (h : os'.Perm (os.map (.relabel ρ σ))) (arm : Bucket) :
    (ofArm arm os').Perm ((ofArm arm os).map (.relabel ρ σ)) := by
  have hmap : (ofArm arm os).map (UpliftObservation.relabel ρ σ) =
      ofArm arm (os.map (.relabel ρ σ)) := by
    rw [ofArm, ofArm, List.filter_map]
    rfl
  rw [hmap]
  exact h.filter _

/-- What does not read the names is the same. -/
theorem map_relabel {β : Type} {f f' : UpliftObservation K → β}
    (h : os'.Perm (os.map (.relabel ρ σ))) (hf : ∀ o, f' (o.relabel ρ σ) = f o) :
    (os'.map f').Perm (os.map f) := by
  have hcomp : (os.map (UpliftObservation.relabel ρ σ)).map f' = os.map f := by
    rw [List.map_map]
    exact List.map_congr_left fun o _ => hf o
  rw [← hcomp]
  exact h.map f'

theorem length_relabel (h : os'.Perm (os.map (.relabel ρ σ))) : os'.length = os.length := by
  rw [h.length_eq, List.length_map]

theorem recovered_relabel (h : os'.Perm (os.map (.relabel ρ σ))) :
    (os'.filter UpliftObservation.recovered).length =
      (os.filter UpliftObservation.recovered).length := by
  rw [(h.filter _).length_eq, List.filter_map, List.length_map]
  rfl

/-- There are as many clusters under other names. -/
theorem clusters_relabel (hσ : σ.Injective) (h : os'.Perm (os.map (.relabel ρ σ))) :
    (distinct (os'.map UpliftObservation.cluster)).length =
      (distinct (os.map UpliftObservation.cluster)).length := by
  have hclusters : (os'.map UpliftObservation.cluster).Perm
      ((os.map UpliftObservation.cluster).map σ) := by
    rw [List.map_map]
    exact map_relabel h fun o => rfl
  have himage : ((os.map UpliftObservation.cluster).map σ).toFinset =
      (os.map UpliftObservation.cluster).toFinset.image σ := by
    ext c
    simp only [List.mem_toFinset, List.mem_map, Finset.mem_image]
  rw [length_distinct, length_distinct, List.toFinset_eq_of_perm _ _ hclusters, himage,
    Finset.card_image_of_injective _ hσ]

section

variable {config : SequentialUpliftConfig K}
  {observations observations' : List (UpliftObservation K)}

theorem meetsFloor_relabel (hρ : ρ.Injective)
    (h : observations'.Perm (observations.map (.relabel ρ σ))) (key : String) :
    MeetsFloor config observations' (ρ key) ↔ MeetsFloor config observations key := by
  have hstratum : (observations'.filter fun o => o.stratum = ρ key).Perm
      ((observations.filter fun o => o.stratum = key).map (.relabel ρ σ)) := by
    refine (h.filter _).trans (List.Perm.of_eq ?_)
    rw [List.filter_map]
    refine congrArg (List.map _) (List.filter_congr fun o _ => ?_)
    simp only [Function.comp_apply, UpliftObservation.relabel, hρ.eq_iff]
  refine forall_congr' fun arm => ?_
  rw [length_relabel (ofArm_relabel hstratum arm)]

variable (hρ : ρ.Injective) (h : observations'.Perm (observations.map (.relabel ρ σ)))
  (hname : ¬ ReservedName config observations) (hname' : ¬ ReservedName config observations')

include hρ h in
theorem effective_relabel_of_meetsFloor {o : UpliftObservation K}
    (hmeets : MeetsFloor config observations o.stratum) :
    effective config observations' (o.relabel ρ σ) = ρ (effective config observations o) := by
  rw [effective, effective, effStratum_of_meetsFloor hmeets]
  exact effStratum_of_meetsFloor ((meetsFloor_relabel hρ h _).2 hmeets)

include hρ h hname in
/-- The effective stratum under other names. -/
theorem effective_relabel {o : UpliftObservation K} (ho : o ∈ observations) :
    effective config observations' (o.relabel ρ σ) =
      renameEffective ρ (effective config observations o) := by
  have hpooled := effective_eq_pooledKey hname ho
  by_cases hmeets : MeetsFloor config observations o.stratum
  · rw [effective_relabel_of_meetsFloor hρ h hmeets, renameEffective, if_neg fun heff =>
      hpooled.1 heff hmeets]
  · rw [renameEffective, if_pos (hpooled.2 hmeets)]
    exact effStratum_of_not_meetsFloor fun hmeets' =>
      hmeets ((meetsFloor_relabel hρ h _).1 hmeets')

include hρ h hname hname' in
/-- Only the pooled stratum is called as the pooled one. -/
theorem renameEffective_eq_pooledKey {o : UpliftObservation K} (ho : o ∈ observations) :
    renameEffective ρ (effective config observations o) = pooledKey ↔
      effective config observations o = pooledKey := by
  have ho' : o.relabel ρ σ ∈ observations' := h.mem_iff.2 (List.mem_map_of_mem ho)
  rw [← effective_relabel hρ h hname ho, effective_eq_pooledKey hname' ho',
    effective_eq_pooledKey hname ho]
  exact not_congr (meetsFloor_relabel hρ h _)

include hρ h hname hname' in
theorem renameEffective_inj : ∀ x ∈ observations, ∀ y ∈ observations,
    renameEffective ρ (effective config observations x) =
      renameEffective ρ (effective config observations y) →
    effective config observations x = effective config observations y := by
  intro x hx y hy heq
  have hpx := renameEffective_eq_pooledKey hρ h hname hname' hx
  have hpy := renameEffective_eq_pooledKey hρ h hname hname' hy
  by_cases hx' : effective config observations x = pooledKey
  · rw [hx', eq_comm, ← hpy, ← heq]
    exact hpx.2 hx'
  · have hy' : effective config observations y ≠ pooledKey := by
      rw [Ne, ← hpy, ← heq, hpx]
      exact hx'
    rw [renameEffective, renameEffective, if_neg hx', if_neg hy'] at heq
    exact hρ heq

end

/-- The effective strata of some observations are those of others, in another order and renamed. -/
structure Renamed (config : SequentialUpliftConfig K)
    (observations observations' : List (UpliftObservation K)) (ρ σ τ : String → String) : Prop where
  perm : observations'.Perm (observations.map (.relabel ρ σ))
  clusters : σ.Injective
  effective : ∀ o ∈ observations, effective config observations' (o.relabel ρ σ) =
    τ (effective config observations o)
  inj : ∀ x ∈ observations, ∀ y ∈ observations, τ (AX10M.effective config observations x) =
    τ (AX10M.effective config observations y) →
    AX10M.effective config observations x = AX10M.effective config observations y
  pooled : ∀ o ∈ observations, τ (AX10M.effective config observations o) = pooledKey ↔
    AX10M.effective config observations o = pooledKey

section

variable {config : SequentialUpliftConfig K}
  {observations observations' : List (UpliftObservation K)}

theorem renamed_of_injective (hρ : ρ.Injective) (hσ : σ.Injective)
    (h : observations'.Perm (observations.map (.relabel ρ σ)))
    (hname : ¬ ReservedName config observations) (hname' : ¬ ReservedName config observations') :
    Renamed config observations observations' ρ σ (renameEffective ρ) where
  perm := h
  clusters := hσ
  effective _ ho := effective_relabel hρ h hname ho
  inj := renameEffective_inj hρ h hname hname'
  pooled _ ho := renameEffective_eq_pooledKey hρ h hname hname' ho

/-- In another order the effective strata keep their names. -/
theorem renamed_of_perm (h : observations'.Perm observations) :
    Renamed config observations observations' id id id where
  perm := by
    have hid : observations.map (UpliftObservation.relabel id id) = observations := List.map_id _
    rwa [hid]
  clusters := Function.injective_id
  effective o _ := by
    have hfloor : ∀ arm,
        (ofArm arm (observations'.filter fun o' => o'.stratum = o.stratum)).length =
        (ofArm arm (observations.filter fun o' => o'.stratum = o.stratum)).length :=
      fun arm => ((h.filter _).filter _).length_eq
    show effStratum config observations' o.stratum = effStratum config observations o.stratum
    rw [effStratum, effStratum, hfloor, hfloor]
  inj _ _ _ _ heq := heq
  pooled _ _ := Iff.rfl

theorem Renamed.inStratum {τ : String → String}
    (h : Renamed config observations observations' ρ σ τ) {key : String} (hkey : ∃ o ∈ observations, AX10M.effective config observations o = key) :
    (inStratum config observations' (τ key)).Perm
      ((inStratum config observations key).map (.relabel ρ σ)) := by
  rw [AX10M.inStratum, AX10M.inStratum, ← itemsOf_relabel h.effective h.inj hkey]
  exact itemsOf_perm h.perm _

end

end

end AX10M
