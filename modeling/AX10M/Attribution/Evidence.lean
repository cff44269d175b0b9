/-
  What the exported rows say of the fee.

  `evidence_accounts_iff`: the rows of each arm come to what enters the fee of the arm if and only
  if no outcome that is neither recovered nor reversed has a net amount.

  `evidence_reproduces`: the fee can be computed again from an export if every outcome is exported
  and the override differs from what is disclosed in nothing but the fee rate and the currency; and
  only then is it computed from the same data.
-/
import AX10M.Attribution.Reconciliation
import Mathlib.Algebra.Order.BigOperators.Group.List
import Mathlib.Data.Rat.Floor

namespace AX10M

open Js

section

variable {K : Type} [Field K] [LinearOrder K]

/-- What outcomes of an arm come to, net of what was clawed back. -/
def armNet (arm : Bucket) (outcomes : List (SettledOutcome K)) : K :=
  ((outcomesOf arm outcomes).map SettledOutcome.netRecovered).sum

/-- What is disclosed of the configuration, the defaults for the rest. -/
def disclosedConfig (e : ReconciliationExport K) : SequentialUpliftConfig K :=
  { defaultSequentialConfig K with
    alpha := e.epoch.alpha
    tau2 := e.epoch.tau2
    feeRate := e.fee.feeRate
    expectedControlFraction := e.epoch.controlFraction
    currency := e.currency }

/-- The override differs from what an export discloses in the fee rate and the currency at most. -/
def SequentialUpliftConfig.Disclosed (c : SequentialUpliftConfig K) (epoch : EpochDisclosure K) :
    Prop :=
  c = { defaultSequentialConfig K with
    alpha := epoch.alpha
    tau2 := epoch.tau2
    feeRate := c.feeRate
    expectedControlFraction := epoch.controlFraction
    currency := c.currency }

/-- Every outcome is exported, and an override hides nothing. -/
structure ReconciliationParams.Discloses (p : ReconciliationParams K) : Prop where
  rows : ∀ o ∈ p.outcomes, Exported o
  config : ∀ c, p.config = some c → c.Disclosed p.epoch

section

variable {o : SettledOutcome K}

theorem netRecovered_nonneg (o : SettledOutcome K) : 0 ≤ o.netRecovered := le_max_left _ _

theorem netRecovered_eq_zero [IsStrictOrderedRing K] :
    o.netRecovered = 0 ↔ o.recoveredAmount ≤ o.reversalAmount.getD 0 := by
  rw [SettledOutcome.netRecovered, max_eq_left_iff, sub_nonpos]

/-- A sum over a list is the sum over what is kept of it, if and only if what is left out comes to
    nothing. -/
theorem sum_filter_eq_iff [IsStrictOrderedRing K] {α : Type} {f : α → K} (hf : ∀ x, 0 ≤ f x)
    (p : α → Bool) (l : List α) :
    (l.map f).sum = ((l.filter p).map f).sum ↔ ∀ x ∈ l, p x = false → f x = 0 := by
  have hsplit : (l.map f).sum =
      ((l.filter p).map f).sum + ((l.filter fun x => !p x).map f).sum := by
    rw [← ((List.filter_append_perm p l).map f).sum_eq, List.map_append, List.sum_append]
  have hnonneg : ∀ y ∈ (l.filter fun x => !p x).map f, 0 ≤ y := by
    intro y hy
    obtain ⟨x, -, rfl⟩ := List.mem_map.1 hy
    exact hf x
  rw [hsplit, add_eq_left]
  constructor
  · intro hzero x hx hp
    have hmem : f x ∈ (l.filter fun x => !p x).map f :=
      List.mem_map_of_mem (List.mem_filter.2 ⟨hx, by rw [hp]; rfl⟩)
    exact List.all_zero_of_le_zero_le_of_sum_eq_zero hnonneg hzero hmem
  · intro hall
    refine List.sum_eq_zero fun y hy => ?_
    obtain ⟨x, hx, rfl⟩ := List.mem_map.1 hy
    obtain ⟨hx, hp⟩ := List.mem_filter.1 hx
    exact hall x hx (by simpa using hp)

end

theorem ReconciliationParams.discloses_iff (p : ReconciliationParams K) : p.Discloses ↔
    (∀ o ∈ p.outcomes, Exported o) ∧ ∀ c, p.config = some c → c.Disclosed p.epoch :=
  ⟨fun h => ⟨h.rows, h.config⟩, fun h => ⟨h.1, h.2⟩⟩

variable [FloorRing K]

/-- Computing the fee again from an export gives the bound, the increment and the fee that it
    states. -/
def Reproduces (M : MathOps K) (e : ReconciliationExport K) : Prop :=
  ∃ r, computeBillableUplift M (e.recoveredTransactions.map settledOutcomeToObservation)
      (disclosedConfig e) e.fee.priorBilledDollars = .ok r ∧
    r.lowerPer = e.fee.lowerPer ∧ r.lowerDollarsCum = e.fee.lowerDollarsCum ∧
    r.billableIncrement = e.fee.billableIncrement ∧ r.fee = e.fee.fee

/-- What an export is made of. -/
theorem buildReconciliationExport_eq {ctx : ReconciliationContext K} {p : ReconciliationParams K}
    {e : ReconciliationExport K} (h : buildReconciliationExport ctx p = .ok e) :
    e.recoveredTransactions = p.exportedRows ∧ e.epoch = p.epoch ∧ e.currency = p.currency ∧
    ∃ r, computeBillableUplift ctx.ops p.observations p.effectiveConfig
        (p.priorBilledDollars.getD 0) = .ok r ∧
      e.fee = feeWorksheet p.effectiveConfig.feeRate (p.priorBilledDollars.getD 0) r := by
  rw [buildReconciliationExport] at h
  cases hr : computeBillableUplift ctx.ops p.observations p.effectiveConfig
      (p.priorBilledDollars.getD 0) with
  | error message =>
    rw [hr] at h
    cases h
  | ok r =>
    rw [hr] at h
    obtain rfl := Except.ok.inj h
    exact ⟨rfl, rfl, rfl, r, rfl, rfl⟩

/-! ## The money -/

/-- The export that is built with a configuration that is admitted. -/
theorem buildReconciliationExport_of_admitted {ctx : ReconciliationContext K}
    {p : ReconciliationParams K} (h : configError ctx.ops p.effectiveConfig = none) :
    buildReconciliationExport ctx p = .ok ((reconciliationCore ctx p
      (settle (measure ctx.ops p.observations p.effectiveConfig) p.effectiveConfig.feeRate
        (p.priorBilledDollars.getD 0))).sign ctx p.signer) := by
  have hcomputed : computeBillableUplift ctx.ops p.observations p.effectiveConfig
      (p.priorBilledDollars.getD 0) = .ok _ := computeBillableUplift_ok.2 ⟨h, rfl⟩
  rw [buildReconciliationExport, hcomputed]
  rfl

/-- For every list of outcomes and each arm: what enters the fee of the arm is what its exported
    rows come to, and no row with a net amount is left out, if and only if every outcome that is
    neither recovered nor reversed has been clawed back. -/
theorem evidence_accounts_iff [IsStrictOrderedRing K] {ctx : ReconciliationContext K}
    {p : ReconciliationParams K} {e : ReconciliationExport K}
    (h : buildReconciliationExport ctx p = .ok e) (arm : Bucket) :
    (armNet arm p.outcomes = armNet arm e.recoveredTransactions ∧
      ∀ o ∈ p.outcomes, o.arm = arm → 0 < o.netRecovered → o ∈ e.recoveredTransactions) ↔
    ∀ o ∈ p.outcomes, o.arm = arm → ¬ Exported o → o.recoveredAmount ≤ o.reversalAmount.getD 0 := by
  obtain ⟨hrows, -⟩ := buildReconciliationExport_eq h
  have hcomm : outcomesOf arm p.exportedRows =
      (outcomesOf arm p.outcomes).filter fun o => Exported o := by
    rw [outcomesOf, outcomesOf, ReconciliationParams.exportedRows, List.filter_comm]
  rw [hrows, armNet, armNet, hcomm, sum_filter_eq_iff netRecovered_nonneg]
  constructor
  · rintro ⟨hzero, -⟩ o ho harm hnot
    exact netRecovered_eq_zero.1 (hzero o (List.mem_filter.2 ⟨ho, by simpa using harm⟩)
      (by simpa using hnot))
  · intro hall
    refine ⟨?_, ?_⟩
    · intro o ho hnot
      obtain ⟨ho, harm⟩ := List.mem_filter.1 ho
      exact netRecovered_eq_zero.2 (hall o ho (by simpa using harm) (by simpa using hnot))
    · intro o ho harm hpos
      refine List.mem_filter.2 ⟨ho, ?_⟩
      by_contra hnot
      exact hpos.ne' (netRecovered_eq_zero.2 (hall o ho harm (by simpa using hnot)))

/-! ## The fee -/

/-- The currency is a label. -/
theorem computeBillableUplift_currency (M : MathOps K) (observations : List (UpliftObservation K))
    (c : SequentialUpliftConfig K) (currency : String) (prior : ℚ) :
    computeBillableUplift M observations { c with currency } prior =
      computeBillableUplift M observations c prior := rfl

/-- The fee can be computed again from an export that discloses everything; and what is disclosed
    are the data that the fee was computed from, if and only if every outcome is exported and an
    override hides nothing. -/
theorem evidence_reproduces {ctx : ReconciliationContext K} {p : ReconciliationParams K}
    {e : ReconciliationExport K} (h : buildReconciliationExport ctx p = .ok e) :
    (p.Discloses → Reproduces ctx.ops e) ∧
    (p.Discloses ↔ e.recoveredTransactions.map settledOutcomeToObservation = p.observations ∧
      disclosedConfig e = { p.effectiveConfig with currency := e.currency }) := by
  obtain ⟨hrows, hepoch, hcurrency, r, hr, hfee⟩ := buildReconciliationExport_eq h
  have hsame : p.Discloses ↔ e.recoveredTransactions.map settledOutcomeToObservation =
      p.observations ∧ disclosedConfig e = { p.effectiveConfig with currency := e.currency } := by
    rw [p.discloses_iff, hrows, ReconciliationParams.observations, disclosedConfig, hepoch, hfee]
    refine and_congr ⟨?_, ?_⟩ ⟨?_, ?_⟩
    · intro hall
      rw [ReconciliationParams.exportedRows, List.filter_eq_self.2 (by simpa using hall)]
    · intro hmap
      have hlength := congrArg List.length hmap
      rw [List.length_map, List.length_map] at hlength
      simpa using List.length_filter_eq_length_iff.1 hlength
    · intro hover
      cases hc : p.config with
      | none =>
        rw [ReconciliationParams.effectiveConfig, hc]
        rfl
      | some c =>
        have heffective : p.effectiveConfig = c := by
          rw [ReconciliationParams.effectiveConfig, hc]
          rfl
        rw [heffective]
        exact (congrArg (fun c' : SequentialUpliftConfig K =>
          { c' with currency := e.currency }) (hover c hc)).symm
    · intro hconfig c hc
      have heffective : p.effectiveConfig = c := by
        rw [ReconciliationParams.effectiveConfig, hc]
        rfl
      rw [heffective] at hconfig
      exact (congrArg (fun c' : SequentialUpliftConfig K =>
        { c' with currency := c.currency }) hconfig).symm
  refine ⟨?_, hsame⟩
  intro hdiscloses
  obtain ⟨hobs, hconfig⟩ := hsame.1 hdiscloses
  refine ⟨r, ?_, ?_⟩
  · rw [hobs, hconfig, hfee, computeBillableUplift_currency]
    exact hr
  · rw [hfee]
    exact ⟨rfl, rfl, rfl, rfl⟩

end

/-! ## A month of few invoices -/

namespace Sample

/-- The square roots and the logarithm of the month below. -/
def monthOps : MathOps ℚ where
  sqrt x := if x = 2500 then 50
    else if x = 1601 / 1600 * (13369848260104696 / 10 ^ 15) then 3657622781981114 / 10 ^ 15 else 0
  log x := if x = 640400 then 13369848260104696 / 10 ^ 15 else 0
  text _ := ""

def outcomeOf (arm : Bucket) (customer : String) (outcome : OutcomeStatus) (amount : ℚ) :
    SettledOutcome ℚ where
  invoiceId := "in_" ++ customer
  customerId := customer
  arm
  stratum := "s1"
  outcome
  invoiceAmount := 100
  recoveredAmount := amount
  currency := "USD"

def reconciliationContext : ReconciliationContext ℚ where
  ops := monthOps
  sha256 := fun text => text
  render := fun core => core.merchantId ++ core.period
  now := "2026-08-01T00:00:00.000Z"

/-- The default parameters, disclosed. -/
def monthOf (outcomes : List (SettledOutcome ℚ)) : ReconciliationParams ℚ where
  merchantId := "mrc_1"
  period := "2026-07"
  outcomes
  epoch := {
    epochId := "ep_1"
    saltRevealed := "salt"
    controlFraction := 1 / 10
    windowDays := 14
    alpha := 5 / 100
    tau2 := 4000000
    billingMode := .conservative }
  ledger := []
  ledgerHead := ""

/-- One of two treated invoices is recovered, and none of the control. -/
def halfRecovered : ReconciliationParams ℚ :=
  monthOf [outcomeOf .treatment "cus_1" .recovered 100, outcomeOf .treatment "cus_2" .failed 0,
    outcomeOf .control "cus_3" .failed 0, outcomeOf .control "cus_4" .failed 0]

/-- A part is paid of an invoice that is still pending. -/
def partlyPaid : ReconciliationParams ℚ := monthOf [outcomeOf .treatment "cus_1" .pending 50]

/-- All of an invoice is recovered. -/
def allRecovered : ReconciliationParams ℚ :=
  monthOf [outcomeOf .treatment "cus_1" .recovered 100]

theorem month_admitted (outcomes : List (SettledOutcome ℚ)) :
    configError monthOps (monthOf outcomes).effectiveConfig = none := by
  have hsame : configError monthOps (monthOf outcomes).effectiveConfig =
      configError monthOps (monthOf []).effectiveConfig := rfl
  rw [hsame]
  decide +kernel

/-- The export of a month. -/
def exportOf (p : ReconciliationParams ℚ) : ReconciliationExport ℚ :=
  (reconciliationCore reconciliationContext p
    (settle (measure monthOps p.observations p.effectiveConfig) p.effectiveConfig.feeRate
      (p.priorBilledDollars.getD 0))).sign reconciliationContext p.signer

theorem exported {p : ReconciliationParams ℚ}
    (h : configError monthOps p.effectiveConfig = none) :
    buildReconciliationExport reconciliationContext p = .ok (exportOf p) :=
  buildReconciliationExport_of_admitted h

theorem month_exported (outcomes : List (SettledOutcome ℚ)) :
    buildReconciliationExport reconciliationContext (monthOf outcomes) =
      .ok (exportOf (monthOf outcomes)) := exported (month_admitted outcomes)

end Sample

/-- The rows account for an invoice that is recovered. -/
theorem evidence_accounts_recovered :
    armNet .treatment Sample.allRecovered.outcomes =
      armNet .treatment (Sample.exportOf Sample.allRecovered).recoveredTransactions :=
  ((evidence_accounts_iff (Sample.month_exported _) .treatment).2 (by
    intro o ho _ hnot
    obtain rfl := List.mem_singleton.1 ho
    exact absurd (Or.inl rfl) hnot)).1

/-- What is paid of a pending invoice enters the fee, and no row shows it. -/
theorem evidence_accounts_fails : ∃ e,
    buildReconciliationExport Sample.reconciliationContext Sample.partlyPaid = .ok e ∧
    armNet .treatment Sample.partlyPaid.outcomes = 50 ∧ e.fee.deltaPer = 50 ∧
    e.recoveredTransactions.length = 0 := by
  refine ⟨_, Sample.month_exported _, ?_⟩
  decide +kernel

/-- The fee of a month whose only invoice is recovered, computed again. -/
theorem evidence_reproduces_recovered :
    Reproduces Sample.monthOps (Sample.exportOf Sample.allRecovered) :=
  (evidence_reproduces (Sample.month_exported _)).1 ⟨by
    intro o ho
    obtain rfl := List.mem_singleton.1 ho
    exact Or.inl rfl, nofun⟩

/-- Without the rows of the invoices that failed, all that was recovered seems proven. -/
theorem evidence_reproduces_fails : ∃ e,
    buildReconciliationExport Sample.reconciliationContext Sample.halfRecovered = .ok e ∧
    e.fee.lowerDollarsCum = 0 ∧
    ∃ r, computeBillableUplift Sample.monthOps
        (e.recoveredTransactions.map settledOutcomeToObservation) (disclosedConfig e)
        e.fee.priorBilledDollars = .ok r ∧
      r.lowerDollarsCum = 100 := by
  have hadmitted : configError Sample.monthOps
      (disclosedConfig (Sample.exportOf Sample.halfRecovered)) = none := by decide +kernel
  refine ⟨_, Sample.month_exported _, ?_, _, computeBillableUplift_ok.2 ⟨hadmitted, rfl⟩, ?_⟩
  · decide +kernel
  · decide +kernel

end AX10M
