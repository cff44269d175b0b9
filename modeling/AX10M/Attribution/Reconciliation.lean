/-
  The reconciliation export (`@ax10m/attribution`, `reconciliation.ts`): the fee and its inputs, the
  rows that a merchant ties to the payout report of its processor, and the tie-out.

  Amounts are in minor units, of the field that the estimator computes in.
-/
import AX10M.Attribution.Chain
import AX10M.Billing.Statement

namespace AX10M

open Js

/-! ## Outcomes -/

inductive OutcomeStatus where
  | recovered | failed | pending
  deriving DecidableEq

inductive OutcomeReversal where
  | none | refund | chargeback | dispute
  deriving DecidableEq

/-- The text of a status. -/
def OutcomeStatus.text : OutcomeStatus → String
  | recovered => "recovered" | failed => "failed" | pending => "pending"

/-- The text of a reversal. -/
def OutcomeReversal.text : OutcomeReversal → String
  | none => "none" | refund => "refund" | chargeback => "chargeback" | dispute => "dispute"

/-- The outcome of a failed invoice whose window has closed. -/
structure SettledOutcome (K : Type) where
  invoiceId : String
  customerId : String
  arm : Bucket
  stratum : String
  declineCode : Option String := none
  outcome : OutcomeStatus
  /-- the face value of the invoice -/
  invoiceAmount : K
  recoveredAmount : K
  currency : String
  processorTxnId : Option String := none
  settledAt : Option String := none
  reversalType : Option OutcomeReversal := none
  /-- what was clawed back within the window -/
  reversalAmount : Option K := none
  reversalAt : Option String := none

inductive BillingMode where
  | conservative | fullValue
  deriving DecidableEq

/-- The configuration of an epoch, as it is disclosed. -/
structure EpochDisclosure (K : Type) where
  epochId : String
  saltRevealed : String
  controlFraction : K
  windowDays : K
  alpha : K
  tau2 : K
  cupedModelVersion : Option String := none
  billingMode : BillingMode

/-! ## The export -/

structure ArmSummary (K : Type) where
  invoices : ℕ
  recovered : ℕ
  recoveredAmount : K
  reversedAmount : K

/-- The inputs of the fee. -/
structure FeeWorksheet (K : Type) where
  feeRate : K
  deltaPer : K
  se : K
  halfWidth : K
  lowerPer : K
  treatedInvoices : ℕ
  lowerDollarsCum : ℤ
  priorBilledDollars : ℚ
  billableIncrement : ℚ
  fee : ℤ
  billable : Bool
  gateReasons : List String
  cupedVarianceReduction : K
  effectiveN : K

/-- What is hashed of an export. -/
structure ReconciliationCore (K : Type) where
  merchantId : String
  period : String
  currency : String
  control : ArmSummary K
  treatment : ArmSummary K
  fee : FeeWorksheet K
  epoch : EpochDisclosure K
  recoveredTransactions : List (SettledOutcome K)
  ledgerHead : String
  ledgerVerified : Bool
  generatedAt : String

structure ReconciliationExport (K : Type) extends ReconciliationCore K where
  statementHash : String
  signature : Option String
  signingKeyId : Option String

structure ReconciliationParams (K : Type) where
  merchantId : String
  period : String
  outcomes : List (SettledOutcome K)
  epoch : EpochDisclosure K
  ledger : List ChainEntry
  ledgerHead : String
  priorBilledDollars : Option ℚ := none
  config : Option (SequentialUpliftConfig K) := none
  signer : Option Signer := none
  generatedAt : Option String := none

/-- What exports are built with. -/
structure ReconciliationContext (K : Type) where
  ops : MathOps K
  sha256 : Digest
  /-- the canonical text of what is hashed (`stableStringify`) -/
  render : ReconciliationCore K → String
  /-- what the clock reads -/
  now : String

section

variable {K : Type} [Field K] [LinearOrder K]

/-- What was recovered and not clawed back. -/
def SettledOutcome.netRecovered (o : SettledOutcome K) : K :=
  max 0 (o.recoveredAmount - o.reversalAmount.getD 0)

/-- The observation that the fee is computed from. -/
def settledOutcomeToObservation (o : SettledOutcome K) : UpliftObservation K where
  arm := o.arm
  cluster := o.customerId
  stratum := o.stratum
  outcome := o.netRecovered
  covariate := o.invoiceAmount
  recovered := o.outcome = .recovered

/-- The outcomes of an arm. -/
def outcomesOf (arm : Bucket) (outcomes : List (SettledOutcome K)) : List (SettledOutcome K) :=
  outcomes.filter fun o => o.arm = arm

/-- The summary of an arm; only recovered rows count toward what is recovered. -/
def armSummary (rows : List (SettledOutcome K)) : ArmSummary K :=
  rows.foldl (fun s o =>
    { s with
      recovered := s.recovered + if o.outcome = .recovered then 1 else 0
      recoveredAmount := s.recoveredAmount + if o.outcome = .recovered then o.recoveredAmount else 0
      reversedAmount := s.reversedAmount + o.reversalAmount.getD 0 })
    ⟨rows.length, 0, 0, 0⟩

/-- The outcome is exported: it is recovered or reversed. -/
def Exported (o : SettledOutcome K) : Prop :=
  o.outcome = .recovered ∨ o.reversalAmount.getD 0 > 0

instance (o : SettledOutcome K) : Decidable (Exported o) :=
  inferInstanceAs (Decidable (_ ∨ _))

namespace ReconciliationParams

variable (p : ReconciliationParams K)

def currency : String :=
  match p.outcomes with
  | o :: _ => o.currency
  | [] => (p.config.getD (defaultSequentialConfig K)).currency

/-- The configuration: the defaults with the epoch's parameters, or the override. -/
def effectiveConfig : SequentialUpliftConfig K :=
  p.config.getD { defaultSequentialConfig K with
    alpha := p.epoch.alpha
    tau2 := p.epoch.tau2
    expectedControlFraction := p.epoch.controlFraction
    currency := p.currency }

/-- The observations that the fee is computed from. -/
def observations : List (UpliftObservation K) := p.outcomes.map settledOutcomeToObservation

/-- The rows that are exported. -/
def exportedRows : List (SettledOutcome K) := p.outcomes.filter fun o => Exported o

end ReconciliationParams

variable [FloorRing K]

/-- The worksheet of a result. -/
def feeWorksheet (feeRate : K) (priorBilled : ℚ) (result : BillableUpliftResult K) :
    FeeWorksheet K where
  feeRate
  deltaPer := result.deltaPer
  se := result.se
  halfWidth := result.halfWidth
  lowerPer := result.lowerPer
  treatedInvoices := result.treatedInvoices
  lowerDollarsCum := result.lowerDollarsCum
  priorBilledDollars := priorBilled
  billableIncrement := result.billableIncrement
  fee := result.fee
  billable := result.billable
  gateReasons := result.gateReasons
  cupedVarianceReduction := result.cupedVarianceReduction
  effectiveN := result.effectiveN

/-- What is hashed of the export of a result. -/
def reconciliationCore (ctx : ReconciliationContext K) (p : ReconciliationParams K)
    (result : BillableUpliftResult K) : ReconciliationCore K where
  merchantId := p.merchantId
  period := p.period
  currency := p.currency
  control := armSummary (outcomesOf .control p.outcomes)
  treatment := armSummary (outcomesOf .treatment p.outcomes)
  fee := feeWorksheet p.effectiveConfig.feeRate (p.priorBilledDollars.getD 0) result
  epoch := p.epoch
  recoveredTransactions := p.exportedRows
  ledgerHead := p.ledgerHead
  ledgerVerified := (verifyChain ctx.sha256 p.ledger).valid
  generatedAt := p.generatedAt.getD ctx.now

/-- Hash an export, and sign the hash if there is a signer. -/
def ReconciliationCore.sign (ctx : ReconciliationContext K) (signer : Option Signer)
    (core : ReconciliationCore K) : ReconciliationExport K :=
  let statementHash := ctx.sha256 (ctx.render core)
  { core with
    statementHash
    signature := signer.map fun s => s.sign statementHash
    signingKeyId := signer.map Signer.keyId }

/-- Build an export, and sign it if there is a signer. -/
def buildReconciliationExport (ctx : ReconciliationContext K) (p : ReconciliationParams K) :
    Except String (ReconciliationExport K) := do
  let result ← computeBillableUplift ctx.ops p.observations p.effectiveConfig
    (p.priorBilledDollars.getD 0)
  return (reconciliationCore ctx p result).sign ctx p.signer

/-! ## The tie-out -/

end

/-- A row of the payout report of the processor. -/
structure PayoutRow (K : Type) where
  key : String
  settledAmount : K

structure ReconLine (K : Type) where
  key : String
  invoiceId : String
  ours : K
  theirs : Option K
  delta : K
  «match» : Bool

structure ReconResult (K : Type) where
  lines : List (ReconLine K)
  oursTotal : K
  theirsTotal : K
  matched : ℕ
  mismatched : ℕ
  missingInPayout : ℕ
  extraInPayout : ℕ
  tiesOut : Bool

/-- What is claimed of a key. -/
structure Claimed (K : Type) where
  ours : K
  invoiceIds : List String

section

variable {K : Type} [Field K] [LinearOrder K]

/-- The key of an outcome in the payout report. -/
def SettledOutcome.payoutKey (o : SettledOutcome K) : String := o.processorTxnId.getD o.invoiceId

/-- The totals of the payout report by key. -/
def payoutByKey (payout : List (PayoutRow K)) : Map String K :=
  payout.foldl (fun m p => m.add p.key p.settledAmount) Map.empty

/-- The outcomes that are claimed. -/
def claimedOf (recovered : List (SettledOutcome K)) : List (SettledOutcome K) :=
  recovered.filter fun o => o.outcome = .recovered ∧ o.recoveredAmount > 0

/-- What is claimed by key. -/
def oursByKey (claimed : List (SettledOutcome K)) : Map String (Claimed K) :=
  claimed.foldl (fun m o =>
    let agg := (m.get o.payoutKey).getD ⟨0, []⟩
    m.set o.payoutKey ⟨agg.ours + o.recoveredAmount, agg.invoiceIds ++ [o.invoiceId]⟩) Map.empty

/-- The line of a key. -/
def reconLine (tolerance : K) (theirsByKey : Map String K) (p : String × Claimed K) : ReconLine K :=
  let theirs := theirsByKey.get p.1
  let delta := p.2.ours - theirs.getD 0
  { key := p.1
    invoiceId := ",".intercalate p.2.invoiceIds
    ours := p.2.ours
    theirs
    delta
    «match» := theirs.isSome && |delta| ≤ tolerance }

/-- Reconcile the recovered rows against the payout report. -/
def reconcileAgainstPayout (recovered : List (SettledOutcome K)) (payout : List (PayoutRow K))
    (toleranceMinor : K := 0) : ReconResult K :=
  let theirs := payoutByKey payout
  let ours := oursByKey (claimedOf recovered)
  let lines := ours.entries.map (reconLine toleranceMinor theirs)
  let oursTotal := lines.foldl (fun t l => t + l.ours) 0
  let theirsTotal := lines.foldl (fun t l => t + l.theirs.getD 0) 0
  let missingInPayout := lines.countP fun l => l.theirs.isNone
  let matched := lines.countP fun l => l.theirs.isSome && l.match
  let mismatched := lines.countP fun l => l.theirs.isSome && !l.match
  { lines, oursTotal, theirsTotal, matched, mismatched, missingInPayout
    extraInPayout := (theirs.keys.filter fun k => !ours.has k).length
    tiesOut := mismatched = 0 ∧ missingInPayout = 0 ∧ |oursTotal - theirsTotal| ≤ toleranceMinor }

end

end AX10M
