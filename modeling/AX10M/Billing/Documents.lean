/-
  The documents that are signed: reconciliation exports (`@ax10m/attribution`,
  `reconciliation.ts`), uplift statements (`billing/billing.ts`), and acceptances of the terms
  (`@ax10m/billing`, `acceptance.ts`).

  `signed_documents`: what is parsed of the text of a signed document verifies, and no edited
  document does.
-/
import AX10M.Attribution.Evidence
import AX10M.Attribution.Signed
import AX10M.Attribution.Tamper
import AX10M.Billing.Account

namespace AX10M

open Js

/-! ## Values of documents -/

/-- The doubles that numbers are rounded to; a finite one is a finite decimal. -/
structure Doubles (K : Type) where
  of : K → Number ℚ
  decimal : ∀ x q, of x = .fin q → IsDecimal q

/-- The value of a number. -/
def Doubles.num {K : Type} (d : Doubles K) (x : K) : Value := .num (d.of x)

/-- The value of a property that may be `undefined`. -/
def optional {α : Type} (f : α → Value) : Option α → Value
  | some a => f a
  | none => .undefined

/-- The value of an amount of money. -/
def money (amount : Value) (currency : String) : Value :=
  .obj [("amount", amount), ("currency", .str currency)]

def BillingMode.text : BillingMode → String
  | conservative => "conservative" | fullValue => "full_value"

def PayerTrack.text : PayerTrack → String
  | autoPay => "auto_pay" | invoice => "invoice"

section

variable {K : Type} (d : Doubles K)

def SettledOutcome.toValue (o : SettledOutcome K) : Value :=
  .obj [("invoiceId", .str o.invoiceId), ("customerId", .str o.customerId),
    ("arm", .str o.arm.text), ("stratum", .str o.stratum),
    ("declineCode", optional .str o.declineCode), ("outcome", .str o.outcome.text),
    ("invoiceAmount", d.num o.invoiceAmount), ("recoveredAmount", d.num o.recoveredAmount),
    ("currency", .str o.currency), ("processorTxnId", optional .str o.processorTxnId),
    ("settledAt", optional .str o.settledAt),
    ("reversalType", optional (fun t => .str t.text) o.reversalType),
    ("reversalAmount", optional d.num o.reversalAmount),
    ("reversalAt", optional .str o.reversalAt)]

def EpochDisclosure.toValue (epoch : EpochDisclosure K) : Value :=
  .obj [("epochId", .str epoch.epochId), ("saltRevealed", .str epoch.saltRevealed),
    ("controlFraction", d.num epoch.controlFraction), ("windowDays", d.num epoch.windowDays),
    ("alpha", d.num epoch.alpha), ("tau2", d.num epoch.tau2),
    ("cupedModelVersion", optional .str epoch.cupedModelVersion),
    ("billingMode", .str epoch.billingMode.text)]

variable [Field K]

def ArmSummary.toValue (s : ArmSummary K) : Value :=
  .obj [("invoices", d.num s.invoices), ("recovered", d.num s.recovered),
    ("recoveredAmount", d.num s.recoveredAmount), ("reversedAmount", d.num s.reversedAmount)]

def FeeWorksheet.toValue (fee : FeeWorksheet K) : Value :=
  .obj [("feeRate", d.num fee.feeRate), ("deltaPer", d.num fee.deltaPer), ("se", d.num fee.se),
    ("halfWidth", d.num fee.halfWidth), ("lowerPer", d.num fee.lowerPer),
    ("treatedInvoices", d.num fee.treatedInvoices),
    ("lowerDollarsCum", d.num fee.lowerDollarsCum),
    ("priorBilledDollars", d.num fee.priorBilledDollars),
    ("billableIncrement", d.num fee.billableIncrement), ("fee", d.num fee.fee),
    ("billable", .bool fee.billable), ("gateReasons", .arr (fee.gateReasons.map .str)),
    ("cupedVarianceReduction", d.num fee.cupedVarianceReduction),
    ("effectiveN", d.num fee.effectiveN)]

/-- The properties that are hashed of an export. -/
def ReconciliationCore.props (core : ReconciliationCore K) : Props :=
  [("merchantId", .str core.merchantId), ("period", .str core.period),
    ("currency", .str core.currency),
    ("summary", .obj [("control", core.control.toValue d),
      ("treatment", core.treatment.toValue d)]),
    ("fee", core.fee.toValue d), ("epoch", core.epoch.toValue d),
    ("recoveredTransactions", .arr (core.recoveredTransactions.map (SettledOutcome.toValue d))),
    ("ledgerHead", .str core.ledgerHead), ("ledgerVerified", .bool core.ledgerVerified),
    ("generatedAt", .str core.generatedAt)]

def ReconciliationExport.props (e : ReconciliationExport K) : Props :=
  e.toReconciliationCore.props d ++ [("statementHash", .str e.statementHash),
    ("signature", optional .str e.signature), ("signingKeyId", optional .str e.signingKeyId)]

def StratumLine.toValue (l : StratumLine K) : Value :=
  .obj [("stratumKey", .str l.stratumKey), ("controlInvoices", d.num l.controlInvoices),
    ("treatmentInvoices", d.num l.treatmentInvoices), ("controlRate", d.num l.controlRate),
    ("treatmentRate", d.num l.treatmentRate), ("deltaPerStratum", d.num l.deltaPerStratum),
    ("weight", d.num l.weight), ("metFloor", .bool l.metFloor), ("pooled", .bool l.pooled)]

/-- A statistic that may not be finite. -/
def statistic : Number K → Value
  | .fin x => d.num x
  | .infinity => .num .infinity
  | .nan => .num .nan

def BillableUpliftResult.toValue (currency : String) (r : BillableUpliftResult K) : Value :=
  .obj [("controlRate", d.num r.controlRate), ("treatmentRate", d.num r.treatmentRate),
    ("rateDiff", d.num r.rateDiff), ("cupedTheta", d.num r.cupedTheta),
    ("cupedVarianceReduction", d.num r.cupedVarianceReduction), ("deltaPer", d.num r.deltaPer),
    ("se", d.num r.se), ("effectiveN", d.num r.effectiveN), ("halfWidth", d.num r.halfWidth),
    ("lowerPer", d.num r.lowerPer), ("treatedInvoices", d.num r.treatedInvoices),
    ("controlClusters", d.num r.controlClusters),
    ("lowerDollarsCum", money (d.num r.lowerDollarsCum) currency),
    ("priorBilledDollars", money (d.num r.priorBilledDollars) currency),
    ("billableIncrement", money (d.num r.billableIncrement) currency),
    ("fee", money (d.num r.fee) currency),
    ("srm", .obj [("chiSquare", statistic d r.chiSquare), ("breached", .bool r.breached)]),
    ("billable", .bool r.billable), ("gateReasons", .arr (r.gateReasons.map .str)),
    ("perStratum", .arr (r.perStratum.map (StratumLine.toValue d)))]

def BillableStatement.props (s : BillableStatement K) : Props :=
  [("merchantId", .str s.merchantId), ("period", .str s.period), ("currency", .str s.currency),
    ("result", s.result.toValue d s.currency), ("ledgerHead", .str s.ledgerHead),
    ("ledgerVerified", .bool s.ledgerVerified), ("generatedAt", .str s.generatedAt)]

def SignedBillableStatement.props (s : SignedBillableStatement K) : Props :=
  s.toBillableStatement.props d ++ [("statementHash", .str s.statementHash),
    ("signature", .str s.signature), ("signingKeyId", .str s.signingKeyId)]

end

/-! ## The acceptance -/

/-- The acceptance of a version of the terms. -/
structure AcceptanceRecord where
  accountId : String
  merchantId : String
  termsVersion : String
  termsHash : String
  feeSchedule : FeeSchedule
  payerTrack : PayerTrack
  autoPayAuthorized : Bool
  acceptedBy : AuthorizedSigner
  acceptedAt : String
  ip : Option String := none
  userAgent : Option String := none

structure SignedAcceptanceRecord extends AcceptanceRecord where
  recordHash : String
  signature : String
  signingKeyId : String

def FeeSchedule.toValue (d : Doubles ℚ) (fees : FeeSchedule) : Value :=
  .obj [("feeRate", d.num fees.feeRate), ("currency", .str fees.currency),
    ("paymentTermsDays", d.num fees.paymentTermsDays),
    ("lateFinanceChargeMonthlyRate", d.num fees.lateFinanceChargeMonthlyRate)]

def AuthorizedSigner.toValue (s : AuthorizedSigner) : Value :=
  .obj [("name", .str s.name), ("title", .str s.title), ("email", .str s.email)]

def AcceptanceRecord.props (d : Doubles ℚ) (r : AcceptanceRecord) : Props :=
  [("accountId", .str r.accountId), ("merchantId", .str r.merchantId),
    ("termsVersion", .str r.termsVersion), ("termsHash", .str r.termsHash),
    ("feeSchedule", r.feeSchedule.toValue d), ("payerTrack", .str r.payerTrack.text),
    ("autoPayAuthorized", .bool r.autoPayAuthorized), ("acceptedBy", r.acceptedBy.toValue),
    ("acceptedAt", .str r.acceptedAt), ("ip", optional .str r.ip),
    ("userAgent", optional .str r.userAgent)]

def SignedAcceptanceRecord.props (d : Doubles ℚ) (r : SignedAcceptanceRecord) : Props :=
  r.toAcceptanceRecord.props d ++ [("recordHash", .str r.recordHash),
    ("signature", .str r.signature), ("signingKeyId", .str r.signingKeyId)]

/-- Sign an acceptance: hash its canonical text, sign the hash. -/
def signAcceptance (sha256 : Digest) (d : Doubles ℚ) (record : AcceptanceRecord)
    (signer : Signer) : SignedAcceptanceRecord :=
  let recordHash := hashText sha256 (CanonicalJson.stableStringify (.obj (record.props d)))
  { record with
    recordHash
    signature := signer.sign recordHash
    signingKeyId := signer.keyId }

/-! ## Verification -/

/-- The hash of an acceptance is that of its content. -/
def acceptanceHashMatches (sha256 : Digest) (doc : Props) : Bool :=
  hashMatches sha256 CanonicalJson.stableStringify "recordHash" doc

/-- The hash of a statement is that of its content. -/
def statementHashMatches (sha256 : Digest) (doc : Props) : Bool :=
  hashMatches sha256 Billing.stableStringify "statementHash" doc

structure SignatureVerification where
  hashMatches : Bool
  signatureValid : Bool
  deriving DecidableEq

/-- Verify an export: compute its hash again, and check the signature. -/
def verifyReconciliationSignature (V : Verifier) (doc : Props) (publicKeyPem : String) :
    SignatureVerification :=
  let matched := hashMatches V.sha256 Reconciliation.stableStringify "statementHash" doc
  { hashMatches := matched
    signatureValid := matched && (prop doc "signature").isTruthy &&
      signatureVerifies V publicKeyPem "statementHash" doc }

/-- The text that an export is hashed by. -/
def exportContext {K : Type} [Field K] (V : Verifier) (d : Doubles K) (ops : MathOps K)
    (now : String) : ReconciliationContext K where
  ops
  sha256 := V.sha256
  render core := (Reconciliation.stableStringify (.obj (core.props d))).getD ""
  now

/-- The text that a statement is hashed by. -/
def StatementContext.rendering {K : Type} [Field K] (ctx : StatementContext K) (V : Verifier)
    (d : Doubles K) : StatementContext K :=
  { ctx with
    sha256 := V.sha256
    render := fun s => (Billing.stableStringify (.obj (s.props d))).getD "" }

/-! ## The kinds of documents -/

theorem sameJson_dropProto {j k : Json} (h : SameJson j k) :
    SameJson (dropProto j) (dropProto k) := sortKeys_eq_iff.1 (sortKeys_congr h)

/-- Exports; the text does not tell contents apart that differ in `__proto__` properties. -/
def exportKind : DocumentKind where
  hashKey := "statementHash"
  text := Reconciliation.stableStringify
  optional := true
  R j k := SameJson (dropProto j) (dropProto k)
  hashKey_ne := by decide
  canonical := Reconciliation.canonicalText
  of_same := sameJson_dropProto

def statementKind : DocumentKind where
  hashKey := "statementHash"
  text := Billing.stableStringify
  optional := false
  R := SameJson
  hashKey_ne := by decide
  canonical := canonicalText_printSorted false
  of_same h := h

def acceptanceKind : DocumentKind where
  hashKey := "recordHash"
  text := CanonicalJson.stableStringify
  optional := true
  R := SameJson
  hashKey_ne := by decide
  canonical := canonicalText_printSorted true
  of_same h := h

/-! ## Documents are regular -/

section

variable {K : Type} {d : Doubles K} {allowed : Bool}

@[simp] theorem num_regular (x : K) : (d.num x).Regular allowed := by
  rw [Doubles.num, Value.Regular]
  exact d.decimal x

@[simp] theorem num_ne (x : K) : d.num x ≠ .undefined := nofun

theorem optional_regular {α : Type} {f : α → Value} (h : ∀ a, (f a).Regular allowed)
    (o : Option α) : (optional f o).Regular allowed := by
  cases o with
  | none => exact regular_undefined
  | some a => exact h a

@[simp] theorem text_regular (o : Option String) : (optional Value.str o).Regular allowed :=
  optional_regular regular_str o

theorem texts_regular (texts : List String) : RegularItems allowed (texts.map .str) := by
  rw [regularItems_iff]
  intro x hx
  obtain ⟨s, -, rfl⟩ := List.mem_map.1 hx
  exact ⟨nofun, regular_str s⟩

theorem statistic_regular (x : Number K) : (statistic d x).Regular allowed := by
  cases x with
  | fin x => exact num_regular x
  | infinity | nan =>
    rw [statistic, Value.Regular]
    nofun

theorem money_regular {amount : Value} (hne : amount ≠ .undefined) (h : amount.Regular allowed)
    (currency : String) : (money amount currency).Regular allowed := by
  rw [money, Value.Regular]
  refine ⟨?_, ?_⟩
  · show ["amount", "currency"].Nodup
    decide
  · simp [RegularProps, hne, h]

theorem outcome_regular (o : SettledOutcome K) : (o.toValue d).Regular true := by
  rw [SettledOutcome.toValue, Value.Regular]
  refine ⟨?_, ?_⟩
  · show ["invoiceId", "customerId", "arm", "stratum", "declineCode", "outcome", "invoiceAmount",
      "recoveredAmount", "currency", "processorTxnId", "settledAt", "reversalType",
      "reversalAmount", "reversalAt"].Nodup
    decide
  · simp [RegularProps, optional_regular]

theorem epoch_regular (epoch : EpochDisclosure K) : (epoch.toValue d).Regular true := by
  rw [EpochDisclosure.toValue, Value.Regular]
  refine ⟨?_, ?_⟩
  · show ["epochId", "saltRevealed", "controlFraction", "windowDays", "alpha", "tau2",
      "cupedModelVersion", "billingMode"].Nodup
    decide
  · simp [RegularProps]

variable [Field K]

theorem armSummary_regular (s : ArmSummary K) : (s.toValue d).Regular allowed := by
  rw [ArmSummary.toValue, Value.Regular]
  refine ⟨?_, ?_⟩
  · show ["invoices", "recovered", "recoveredAmount", "reversedAmount"].Nodup
    decide
  · simp [RegularProps]

theorem fee_regular (fee : FeeWorksheet K) : (fee.toValue d).Regular allowed := by
  have hreasons : RegularItems allowed (fee.gateReasons.map .str) :=
    texts_regular fee.gateReasons
  rw [FeeWorksheet.toValue, Value.Regular]
  refine ⟨?_, ?_⟩
  · show ["feeRate", "deltaPer", "se", "halfWidth", "lowerPer", "treatedInvoices",
      "lowerDollarsCum", "priorBilledDollars", "billableIncrement", "fee", "billable",
      "gateReasons", "cupedVarianceReduction", "effectiveN"].Nodup
    decide
  · simp [RegularProps, Value.Regular, hreasons]

theorem summary_regular (control treatment : ArmSummary K) :
    (Value.obj [("control", control.toValue d), ("treatment", treatment.toValue d)]).Regular
      allowed := by
  have hne : ∀ s : ArmSummary K, s.toValue d ≠ .undefined := nofun
  rw [Value.Regular]
  refine ⟨?_, ?_⟩
  · show ["control", "treatment"].Nodup
    decide
  · simp [RegularProps, armSummary_regular, hne]

/-- What is hashed of an export is content. -/
theorem core_content (core : ReconciliationCore K) : exportKind.Content (core.props d) where
  regular := by
    have hrows : RegularItems true (core.recoveredTransactions.map (SettledOutcome.toValue d)) := by
      rw [regularItems_iff]
      intro x hx
      obtain ⟨o, -, rfl⟩ := List.mem_map.1 hx
      exact ⟨nofun, outcome_regular o⟩
    show (Value.obj (core.props d)).Regular true
    rw [Value.Regular]
    refine ⟨?_, ?_⟩
    · show ["merchantId", "period", "currency", "summary", "fee", "epoch",
        "recoveredTransactions", "ledgerHead", "ledgerVerified", "generatedAt"].Nodup
      decide
    · have harray : (Value.arr (core.recoveredTransactions.map (SettledOutcome.toValue d))).Regular
          true := by
        rw [Value.Regular]
        exact hrows
      simp [RegularProps, ReconciliationCore.props, summary_regular, fee_regular, epoch_regular,
        harray]
  unsigned := by
    show ∀ k ∈ ["merchantId", "period", "currency", "summary", "fee", "epoch",
        "recoveredTransactions", "ledgerHead", "ledgerVerified", "generatedAt"],
      k ∉ signingFields "statementHash"
    decide

theorem stratum_regular (l : StratumLine K) : (l.toValue d).Regular allowed := by
  rw [StratumLine.toValue, Value.Regular]
  refine ⟨?_, ?_⟩
  · show ["stratumKey", "controlInvoices", "treatmentInvoices", "controlRate", "treatmentRate",
      "deltaPerStratum", "weight", "metFloor", "pooled"].Nodup
    decide
  · simp [RegularProps]

omit [Field K] in
theorem srm_regular (chiSquare : Number K) (breached : Bool) :
    (Value.obj [("chiSquare", statistic d chiSquare), ("breached", .bool breached)]).Regular
      allowed := by
  have hne : statistic d chiSquare ≠ .undefined := by cases chiSquare <;> nofun
  rw [Value.Regular]
  refine ⟨?_, ?_⟩
  · show ["chiSquare", "breached"].Nodup
    decide
  · simp [RegularProps, statistic_regular, hne]

theorem result_regular (currency : String) (r : BillableUpliftResult K) :
    (r.toValue d currency).Regular allowed := by
  have hreasons : (Value.arr (r.gateReasons.map .str)).Regular allowed := by
    rw [Value.Regular]
    exact texts_regular r.gateReasons
  have hlines : (Value.arr (r.perStratum.map (StratumLine.toValue d))).Regular allowed := by
    rw [Value.Regular, regularItems_iff]
    intro x hx
    obtain ⟨l, -, rfl⟩ := List.mem_map.1 hx
    exact ⟨nofun, stratum_regular l⟩
  rw [BillableUpliftResult.toValue, Value.Regular]
  refine ⟨?_, ?_⟩
  · show ["controlRate", "treatmentRate", "rateDiff", "cupedTheta", "cupedVarianceReduction",
      "deltaPer", "se", "effectiveN", "halfWidth", "lowerPer", "treatedInvoices",
      "controlClusters", "lowerDollarsCum", "priorBilledDollars", "billableIncrement", "fee",
      "srm", "billable", "gateReasons", "perStratum"].Nodup
    decide
  · simp [RegularProps, money_regular, srm_regular, hreasons, hlines]
    simp [money]

/-- A statement is content, with nothing `undefined` in it. -/
theorem statement_content (s : BillableStatement K) : statementKind.Content (s.props d) where
  regular := by
    show (Value.obj (s.props d)).Regular false
    rw [Value.Regular]
    refine ⟨?_, ?_⟩
    · show ["merchantId", "period", "currency", "result", "ledgerHead", "ledgerVerified",
        "generatedAt"].Nodup
      decide
    · simp [RegularProps, BillableStatement.props, result_regular]
      simp [BillableUpliftResult.toValue]
  unsigned := by
    show ∀ k ∈ ["merchantId", "period", "currency", "result", "ledgerHead", "ledgerVerified",
      "generatedAt"], k ∉ signingFields "statementHash"
    decide

end

/-- An acceptance is content, whether or not its optional properties are `undefined`. -/
theorem acceptance_content (d : Doubles ℚ) (r : AcceptanceRecord) :
    acceptanceKind.Content (r.props d) where
  regular := by
    have hfees : (r.feeSchedule.toValue d).Regular true := by
      rw [FeeSchedule.toValue, Value.Regular]
      refine ⟨?_, ?_⟩
      · show ["feeRate", "currency", "paymentTermsDays", "lateFinanceChargeMonthlyRate"].Nodup
        decide
      · simp [RegularProps]
    have haccepted : r.acceptedBy.toValue.Regular true := by
      rw [AuthorizedSigner.toValue, Value.Regular]
      refine ⟨?_, ?_⟩
      · show ["name", "title", "email"].Nodup
        decide
      · simp [RegularProps]
    show (Value.obj (r.props d)).Regular true
    rw [Value.Regular]
    refine ⟨?_, ?_⟩
    · show ["accountId", "merchantId", "termsVersion", "termsHash", "feeSchedule", "payerTrack",
        "autoPayAuthorized", "acceptedBy", "acceptedAt", "ip", "userAgent"].Nodup
      decide
    · simp [RegularProps, AcceptanceRecord.props, hfees, haccepted]
  unsigned := by
    show ∀ k ∈ ["accountId", "merchantId", "termsVersion", "termsHash", "feeSchedule",
        "payerTrack", "autoPayAuthorized", "acceptedBy", "acceptedAt", "ip", "userAgent"],
      k ∉ signingFields "recordHash"
    decide

end AX10M
