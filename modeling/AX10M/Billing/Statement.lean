/-
  The monthly uplift statement (`billing/billing.ts`), and the credit for the holdout
  (`@ax10m/billing`, `holdout-economics.ts`).

  The watermark of a merchant is the lower bound its latest statement recorded;
  what is billed is the increment over it.
-/
import AX10M.Billing.Observations

namespace AX10M

open Js

/-! ## The watermark -/

/-- The prior-billed watermark: the `lowerDollarsCum` of the latest statement of the merchant,
    the later entry of two at one instant. -/
def priorBilledFromLedger (entries : List LedgerEntry) (merchantId : String) : ℚ :=
  (entries.foldl (fun (latest : Option ℤ × ℚ) e =>
    if e.type ≠ .upliftStatement ∨ e.merchantId ≠ merchantId then latest
    else
      match Date.parse e.occurredAt, e.field "lowerDollarsCum" with
      | some t, some (.num cum) => if ∀ t' ∈ latest.1, t' ≤ t then (some t, cum) else latest
      | _, _ => latest) (none, 0)).2

/-! ## The statement -/

/-- A statement, before it is signed (`BillableStatement`). -/
structure BillableStatement (K : Type) where
  merchantId : String
  period : String
  currency : String
  result : BillableUpliftResult K
  ledgerHead : String
  ledgerVerified : Bool
  generatedAt : String

structure SignedBillableStatement (K : Type) extends BillableStatement K where
  statementHash : String
  signature : String
  signingKeyId : String

/-- A signer of hashes. -/
structure Signer where
  keyId : String
  sign : String → String

/-- What statements are computed against. -/
structure StatementContext (K : Type) where
  ops : MathOps K
  config : SequentialUpliftConfig K
  sha256 : Digest
  /-- the canonical text of a statement (`stableStringify`) -/
  render : BillableStatement K → String
  signer : Signer
  ledgerHead : String
  /-- the verdict on the chain of the ledger -/
  ledgerVerified : Bool
  generatedAt : String

section

variable {K : Type} [Field K] [LinearOrder K] [FloorRing K]

/-- Sign a statement: hash its canonical text, sign the hash. -/
def signStatement (ctx : StatementContext K) (statement : BillableStatement K) :
    SignedBillableStatement K :=
  let statementHash := ctx.sha256 (ctx.render statement)
  { statement with
    statementHash
    signature := ctx.signer.sign statementHash
    signingKeyId := ctx.signer.keyId }

/-- What is measured of the cohort of a merchant and a period. -/
def measureCohort (ctx : StatementContext K) (entries : List LedgerEntry) (merchantId : String)
    (period : BillingPeriod) : Measurement K :=
  measure ctx.ops
    ((reconstructObservations entries merchantId period).map (UpliftObservation.map fun x : ℚ => (x : K)))
    ctx.config

/-- Compute and sign the statement of a merchant for a period. -/
def computeMerchantStatement (ctx : StatementContext K) (entries : List LedgerEntry)
    (merchantId : String) (period : BillingPeriod) : Except String (SignedBillableStatement K) := do
  let observations := (reconstructObservations entries merchantId period).map
    (UpliftObservation.map fun x : ℚ => (x : K))
  let result ← computeBillableUplift ctx.ops observations ctx.config
    (priorBilledFromLedger entries merchantId)
  return signStatement ctx {
    merchantId
    period := period.label
    currency := ctx.config.currency
    result
    ledgerHead := ctx.ledgerHead
    ledgerVerified := ctx.ledgerVerified
    generatedAt := ctx.generatedAt }

end

/-! ## The holdout credit -/

structure HoldoutScheduleConfig where
  certificationDays : ℚ
  certificationFraction : ℚ
  auditFraction : ℚ

/-- `DEFAULT_HOLDOUT_SCHEDULE`. -/
def defaultHoldoutSchedule : HoldoutScheduleConfig := ⟨90, 1 / 10, 2 / 100⟩

/-- The holdout fraction at a date: the full one until the certification window closes. -/
def holdoutFractionFor (onboardedAtIso asOfIso : String) (cfg : HoldoutScheduleConfig) : ℚ :=
  match Date.parse onboardedAtIso, Date.parse asOfIso with
  | some onb, some asOf =>
    if ((asOf - onb : ℤ) : ℚ) / Date.msPerDay < cfg.certificationDays then cfg.certificationFraction
    else cfg.auditFraction
  | _, _ => cfg.certificationFraction

structure HoldoutEconomics where
  holdoutFraction : ℚ
  estimatedHoldoutCostMinor : ℤ
  grossFeeMinor : ℤ
  holdoutCreditMinor : ℤ
  netBilledMinor : ℤ

/-- The cost of the holdout in a period, the credit for it, and what is billed after it. -/
def computeHoldoutEconomics {K : Type} [Field K] [LinearOrder K] [FloorRing K] (grossFeeMinor : ℤ)
    (perInvoiceLiftMinor : K) (treatedInvoices : ℕ) (holdoutFraction : ℚ) : HoldoutEconomics :=
  let h := max 0 (min (99 / 100) holdoutFraction)
  let heldOutInvoices : ℚ := if h > 0 then treatedInvoices * (h / (1 - h)) else 0
  let cost := max 0 (Js.round (max 0 perInvoiceLiftMinor * (heldOutInvoices : K)))
  let credit := min (max 0 grossFeeMinor) cost
  { holdoutFraction := h
    estimatedHoldoutCostMinor := cost
    grossFeeMinor
    holdoutCreditMinor := credit
    netBilledMinor := max 0 (grossFeeMinor - credit) }

/-- What is billed after the credit is neither negative nor more than the fee. -/
theorem netBilled_bounds {K : Type} [Field K] [LinearOrder K] [FloorRing K] (fee : ℤ) (lift : K)
    (treated : ℕ) (h : ℚ) :
    0 ≤ (computeHoldoutEconomics fee lift treated h).netBilledMinor ∧
      (computeHoldoutEconomics fee lift treated h).netBilledMinor ≤ max 0 fee := by
  simp only [computeHoldoutEconomics]
  omega

end AX10M
