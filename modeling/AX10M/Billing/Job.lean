/-
  The monthly billing job (`billing/billing-job.ts`).

  It reads the ledger, then its head, and computes the statements; for each merchant in turn it
  appends the statement and asks for the fee, and then it issues the invoices.  `jobEffects` are
  these effects in their order; a process that ends on the way has made the first of them.
-/
import AX10M.Attribution.Chain
import AX10M.Billing.Books
import AX10M.Billing.Charger

namespace AX10M

open Js

/-! ## What is read -/

/-- The kind of an entry by its text; a text that is none counts as a kind that the billing does not
    look for. -/
def LedgerEventType.ofText (text : String) : LedgerEventType :=
  ([.holdoutAssigned, .recoveryPlanned, .chargeAttempted, .chargeSucceeded, .chargeFailed,
    .commsSent, .actionSuppressed, .caseRecovered, .caseReversed, .caseReversalReverted,
    .caseAbandoned, .modelPromoted, .upliftStatement].find? fun t => t.text = text).getD
      .modelPromoted

/-- An entry of the chain as the billing reads it. -/
def billingEntry (e : ChainEntry) : LedgerEntry where
  merchantId := e.merchantId
  type := .ofText e.type
  occurredAt := e.occurredAt
  detail :=
    match e.detail with
    | .obj fields => fields
    | _ => []

/-- What is appended for an entry of the billing. -/
def LedgerEntry.toInput (e : LedgerEntry) : LedgerAppendInput :=
  ⟨e.merchantId, e.type.text, e.occurredAt, e.detail⟩

/-- The most recently created account of a merchant. -/
def accountForMerchant (accounts : List BillingAccount) (merchantId : String) :
    Option BillingAccount :=
  (accounts.filter fun a => a.merchantId = merchantId).foldl (fun best a =>
    match best with
    | some b => if b.createdAt < a.createdAt then some a else some b
    | none => some a) none

/-- The onboarding dates that the accounts give. -/
def onboardedAtOf (accounts : List BillingAccount) (merchantId : String) : Option String :=
  ((accounts.filter fun a => a.merchantId = merchantId).getLast?).map BillingAccount.createdAt

/-- The properties of an object, with their texts. -/
def joinFields : List (String × List Char) → List Char
  | [] => ['}']
  | [(k, text)] => quote k ++ ':' :: text ++ ['}']
  | (k, text) :: fields => quote k ++ ':' :: text ++ ',' :: joinFields fields

/-- The canonical text of a statement, its result's apart (`stableStringify`). -/
def stableStringify {K : Type} (resultText : BillableUpliftResult K → List Char)
    (s : BillableStatement K) : String :=
  String.ofList ('{' :: joinFields [("currency", quote s.currency),
    ("generatedAt", quote s.generatedAt), ("ledgerHead", quote s.ledgerHead),
    ("ledgerVerified", stringify (.bool s.ledgerVerified)), ("merchantId", quote s.merchantId),
    ("period", quote s.period), ("result", resultText s.result)])

/-! ## The job -/

/-- What the job is given, the ledger apart. -/
structure BillingJobOptions (K : Type) extends BillingRunOptions K where
  /-- what the wall clock reads when the statement of a merchant is built -/
  clock : String → String
  accounts : List BillingAccount
  remitTo : String

/-- What the job does to the outside. -/
inductive JobEffect where
  | append (entry : LedgerEntry)
  | charge (request : BillingChargeRequest) (receipt : BillingChargeReceipt)
  | upsertInvoice (invoice : BillingInvoice)

section

variable {K : Type}

/-- The options of the billing of a merchant. -/
def BillingJobOptions.at (opts : BillingJobOptions K) (merchantId : String) : BillingRunOptions K :=
  { opts.toBillingRunOptions with
    ctx := { opts.ctx with generatedAt := opts.clock merchantId } }

/-- The request for the fee of a result. -/
def chargeRequest (r : BillingMerchantResult K) : BillingChargeRequest :=
  ⟨r.merchantId, r.period.label, r.economics.netBilledMinor, r.statement.currency,
    r.statement.statementHash⟩

variable [Field K] [LinearOrder K] [FloorRing K]

/-- The options with what was read: the chain's verification and the head. -/
def BillingJobOptions.reading (opts : BillingJobOptions K) (entries : List ChainEntry)
    (ledgerHead : String) : BillingJobOptions K :=
  { opts with
    ctx := { opts.ctx with
      ledgerHead
      ledgerVerified := (verifyChain opts.ctx.sha256 entries).valid }
    onboardedAt := onboardedAtOf opts.accounts }

/-- The results of the job for the merchants of a ledger; a job that throws has none. -/
def jobResults (opts : BillingJobOptions K) (entries : List LedgerEntry) :
    List (BillingMerchantResult K) :=
  let results : Except String (List (BillingMerchantResult K)) := do
    let period ← previousMonth opts.nowIso
    (merchantsInLedger entries).mapM fun m => billMerchant (opts.at m) entries period m
  match results with
  | .ok results => results
  | .error _ => []

/-- The invoice that is issued for a result, if its merchant has opted in. -/
def issuedInvoice (opts : BillingJobOptions K) (r : BillingMerchantResult K) :
    Option BillingInvoice :=
  if r.statement.result.billable && r.economics.netBilledMinor > 0 then
    match accountForMerchant opts.accounts r.merchantId with
    | none => none
    | some account =>
      (buildInvoice account
        { merchantId := r.merchantId
          period := r.statement.period
          currency := r.statement.currency
          feeMinor := r.economics.netBilledMinor
          grossFeeMinor := r.statement.result.fee
          holdoutCreditMinor := r.economics.holdoutCreditMinor
          estimatedHoldoutCostMinor := r.economics.estimatedHoldoutCostMinor
          upliftLowerMinor := r.statement.result.billableIncrement
          statementHash := r.statement.statementHash
          billable := r.statement.result.billable }
        opts.nowIso opts.remitTo).toOption
  else none

/-- The effects of the billing of a merchant. -/
def merchantEffects (opts : BillingJobOptions K) (r : BillingMerchantResult K) : List JobEffect :=
  .append (statementEntry opts.nowIso r) ::
    match r.charge with
    | some receipt => [.charge (chargeRequest r) receipt]
    | none => []

/-- The effects of the job, in their order. -/
def jobEffects (opts : BillingJobOptions K) (results : List (BillingMerchantResult K)) :
    List JobEffect :=
  results.flatMap (merchantEffects opts) ++
    (results.filterMap (issuedInvoice opts)).map .upsertInvoice

/-- `runBillingJob`, on the entries and the head that it read. -/
def runBillingJob (opts : BillingJobOptions K) (entries : List ChainEntry) (ledgerHead : String) :
    List JobEffect :=
  let opts := opts.reading entries ledgerHead
  jobEffects opts (jobResults opts (entries.map billingEntry))

/-! ## What a result is -/

/-- The statement that is signed for a merchant. -/
def statementOf (opts : BillingRunOptions K) (entries : List LedgerEntry) (period : BillingPeriod)
    (m : String) : BillableStatement K where
  merchantId := m
  period := period.label
  currency := opts.ctx.config.currency
  result := settle (measureCohort opts.ctx entries m period) opts.ctx.config.feeRate
    (priorBilledFromLedger entries m)
  ledgerHead := opts.ctx.ledgerHead
  ledgerVerified := opts.ctx.ledgerVerified
  generatedAt := opts.ctx.generatedAt

/-- The holdout fraction that a run credits. -/
def holdoutOf (opts : BillingRunOptions K) (entries : List LedgerEntry) (m : String) : ℚ :=
  holdoutFractionFor ((onboardedAtFor m entries opts.onboardedAt).getD opts.nowIso) opts.nowIso
    opts.holdoutSchedule

theorem toOption_eq_some {ε α : Type} {x : Except ε α} {a : α} : x.toOption = some a ↔ x = .ok a := by
  cases x <;> simp [Except.toOption]

/-- What a run has for a merchant, part by part. -/
structure Billed (opts : BillingRunOptions K) (entries : List LedgerEntry) (p : BillingPeriod)
    (m : String) (r : BillingMerchantResult K) : Prop where
  merchant : r.merchantId = m
  period : r.period = p
  statement : r.statement = signStatement opts.ctx (statementOf opts entries p m)
  economics : r.economics = computeHoldoutEconomics r.statement.result.fee
    r.statement.result.deltaPer r.statement.result.treatedInvoices (holdoutOf opts entries m)
  charge : r.charge = if opts.live && r.statement.result.billable &&
      decide (r.economics.netBilledMinor > 0) then some (opts.charger (chargeRequest r)) else none

theorem billMerchant_billed {opts : BillingRunOptions K} {entries : List LedgerEntry}
    {period : BillingPeriod} {m : String} {r : BillingMerchantResult K}
    (h : billMerchant opts entries period m = .ok r) : Billed opts entries period m r := by
  cases hc : configError opts.ctx.ops opts.ctx.config with
  | some message =>
    simp [billMerchant, computeMerchantStatement, computeBillableUplift, hc, bind, Except.bind] at h
  | none =>
    simp only [billMerchant, computeMerchantStatement, computeBillableUplift, hc, bind, Except.bind,
      pure, Except.pure, Except.ok.injEq] at h
    rw [← h]
    exact ⟨rfl, rfl, rfl, rfl, rfl⟩

/-- The results of the job are those of the merchants of the ledger, or the job has none. -/
theorem jobResults_cases (opts : BillingJobOptions K) (entries : List LedgerEntry) :
    jobResults opts entries = [] ∨ ∃ period, previousMonth opts.nowIso = .ok period ∧
      (jobResults opts entries).map BillingMerchantResult.merchantId = merchantsInLedger entries ∧
      ∀ r ∈ jobResults opts entries,
        Billed (opts.at r.merchantId) entries period r.merchantId r := by
  unfold jobResults
  cases hp : previousMonth opts.nowIso with
  | error e => exact .inl (by simp [bind, Except.bind])
  | ok period =>
    cases hm : (merchantsInLedger entries).mapM
        fun m => billMerchant (opts.at m) entries period m with
    | error e => exact .inl (by simp [hm, bind, Except.bind])
    | ok results =>
      obtain ⟨hn, hb⟩ := mapM_named (fun h => (billMerchant_bills h).merchant) hm
      simp only [hm, bind, Except.bind]
      exact .inr ⟨period, rfl, hn, fun r hr => billMerchant_billed (hb r hr)⟩

theorem jobResults_mem {opts : BillingJobOptions K} {entries : List LedgerEntry}
    {r : BillingMerchantResult K} (h : r ∈ jobResults opts entries) :
    r.merchantId ∈ merchantsInLedger entries ∧ ∃ period, previousMonth opts.nowIso = .ok period ∧
      Billed (opts.at r.merchantId) entries period r.merchantId r := by
  rcases jobResults_cases opts entries with hnil | ⟨period, hp, hn, hb⟩
  · rw [hnil] at h
    cases h
  · exact ⟨hn ▸ List.mem_map_of_mem h, period, hp, hb r h⟩

/-- The job bills each merchant once. -/
theorem jobResults_nodup (opts : BillingJobOptions K) (entries : List LedgerEntry) :
    ((jobResults opts entries).map BillingMerchantResult.merchantId).Nodup := by
  rcases jobResults_cases opts entries with hnil | ⟨period, -, hn, -⟩
  · rw [hnil]
    exact List.nodup_nil
  · rw [hn]
    exact distinct_nodup _

/-! ## The invoices -/

/-- The account of a merchant is the merchant's. -/
theorem accountForMerchant_merchantId {accounts : List BillingAccount} {m : String}
    {account : BillingAccount} (h : accountForMerchant accounts m = some account) :
    account.merchantId = m := by
  have hfold : ∀ (l : List BillingAccount) (best : Option BillingAccount),
      (∀ a ∈ best, a.merchantId = m) → (∀ a ∈ l, a.merchantId = m) →
      ∀ a ∈ l.foldl (fun best a =>
        match best with
        | some b => if b.createdAt < a.createdAt then some a else some b
        | none => some a) best, a.merchantId = m := by
    intro l
    induction l with
    | nil => exact fun best hbest _ => hbest
    | cons a l ih =>
      intro best hbest hl
      refine ih _ ?_ fun a' ha' => hl a' (List.mem_cons_of_mem _ ha')
      intro a' ha'
      cases best with
      | none =>
        obtain rfl : a = a' := by simpa using ha'
        exact hl a List.mem_cons_self
      | some b =>
        by_cases hlt : b.createdAt < a.createdAt
        · obtain rfl : a = a' := by simpa [hlt] using ha'
          exact hl a List.mem_cons_self
        · obtain rfl : b = a' := by simpa [hlt] using ha'
          exact hbest b rfl
  exact hfold _ none (by simp) (fun a ha => by simpa using (List.mem_filter.1 ha).2) account h

omit [Field K] [LinearOrder K] [FloorRing K] in
/-- Only merchants with an account are issued invoices. -/
theorem issuedInvoice_account {opts : BillingJobOptions K} {r : BillingMerchantResult K}
    {invoice : BillingInvoice} (h : issuedInvoice opts r = some invoice) :
    (accountForMerchant opts.accounts r.merchantId).isSome := by
  unfold issuedInvoice at h
  split_ifs at h
  cases ha : accountForMerchant opts.accounts r.merchantId with
  | none => simp [ha] at h
  | some account => rfl

omit [Field K] [LinearOrder K] [FloorRing K] in
/-- A merchant with an account is issued an invoice for what is billed. -/
theorem exists_issuedInvoice {opts : BillingJobOptions K} {r : BillingMerchantResult K} {t : ℤ}
    (hparsed : Date.parse opts.nowIso = some t) (hbillable : r.statement.result.billable)
    (hpos : 0 < r.economics.netBilledMinor)
    (haccount : (accountForMerchant opts.accounts r.merchantId).isSome) :
    ∃ invoice, issuedInvoice opts r = some invoice := by
  obtain ⟨account, ha⟩ := Option.isSome_iff_exists.1 haccount
  unfold issuedInvoice
  rw [if_pos (by simp [hbillable, hpos]), ha]
  obtain ⟨invoice, hbuilt⟩ := exists_buildInvoice account _ hparsed opts.remitTo
  exact ⟨invoice, toOption_eq_some.2 hbuilt⟩

end

namespace Sample

/-- A merchant on auto-pay, opted in a year before. -/
def autoPayAccount : BillingAccount where
  accountId := "acct_1"
  merchantId := "mrc_1"
  legalEntityName := "Acme Inc."
  billingAddress := ⟨"1 Main St", none, "Springfield", "IL", "62701", "US"⟩
  taxId := none
  apContactEmail := "ap@acme.example"
  poRequired := false
  poNumber := none
  payerTrack := .autoPay
  paymentMethodRef := some "pm_1"
  customerRef := some "cus_1"
  feeSchedule := ⟨12 / 100, "usd", 30, 0⟩
  status := .active
  createdAt := "2025-01-01T00:00:00.000Z"

end Sample

end AX10M
