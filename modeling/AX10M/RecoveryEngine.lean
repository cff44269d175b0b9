/-
  What the service reads of the recovery engine (`@ax10m/recovery-engine`): the
  feature store that enriches a failure from past outcomes, and the interface of
  the policy.

  Customer aggregates are kept for each merchant, issuer aggregates are shared by
  all of them.
-/
import AX10M.Canonical
import AX10M.Js.Date
import AX10M.Js.Json
import AX10M.Js.Map
import Mathlib.Algebra.Order.Ring.Rat

namespace AX10M

open Js

inductive CardProductType where
  | credit | debit | prepaid | unknown
  deriving DecidableEq, Repr

/-- The text of a card product. -/
def CardProductType.text : CardProductType → String
  | credit => "credit" | debit => "debit" | prepaid => "prepaid" | unknown => "unknown"

/-- Everything the model sees at the time of a decision. -/
structure RecoveryFeatures where
  declineCode : DeclineCode
  amountMinor : ℚ
  currency : String
  issuerRegion : IssuerRegion
  cardType : CardProductType
  customerTenureDays : ℚ
  priorRecoveryRate : ℚ
  attemptNumber : ℕ
  daysSinceFirstFail : ℚ
  issuerApprovalPrior : ℚ

/-- The features as the object a ledger entry carries. -/
def RecoveryFeatures.json (f : RecoveryFeatures) : Json :=
  .obj [("declineCode", .str f.declineCode.text), ("amountMinor", .num f.amountMinor),
    ("currency", .str f.currency), ("issuerRegion", .str f.issuerRegion.text),
    ("cardType", .str f.cardType.text), ("customerTenureDays", .num f.customerTenureDays),
    ("priorRecoveryRate", .num f.priorRecoveryRate), ("attemptNumber", .num f.attemptNumber),
    ("daysSinceFirstFail", .num f.daysSinceFirstFail),
    ("issuerApprovalPrior", .num f.issuerApprovalPrior)]

/-! ## The policy -/

inductive RecoveryActionKind where
  | retry | cardUpdateComms | suppress
  deriving DecidableEq, Repr

/-- The text of an action. -/
def RecoveryActionKind.text : RecoveryActionKind → String
  | retry => "retry" | cardUpdateComms => "card_update_comms" | suppress => "suppress"

/-- A tokenized method available for a retry. -/
structure AvailableMethod where
  ref : String
  isDefault : Bool
  autoUpdated : Option Bool
  deriving DecidableEq

/-- How close a credential is to the cap of its network. -/
structure ComplianceContext where
  attemptsInNetworkWindow : ℤ
  networkCap : Option ℤ
  /-- the part of the cap from which on a fine is to be expected -/
  fineRampStart : Option ℚ := none
  deriving DecidableEq

structure CostModel where
  attemptFeeMinor : ℚ
  commsCostMinor : ℚ
  fineExposureMinor : ℚ
  retentionMultiplier : ℚ
  deriving DecidableEq

structure PolicyConfig where
  minRecoverabilityToRetry : ℚ
  attemptCostMinor : ℚ
  retentionMultiplier : ℚ
  deriving DecidableEq

structure PolicyContext where
  now : String
  methods : List AvailableMethod
  config : Option PolicyConfig := none
  cost : Option CostModel := none
  compliance : Option ComplianceContext := none
  deriving DecidableEq

structure RecoveryDecision where
  action : RecoveryActionKind
  retryAt : Option String := none
  recoverabilityScore : ℚ
  expectedValueMinor : ℚ
  rationale : String

/-- A policy with what it has learned so far: `CostAwarePolicy` ignores the reward, a
    bandit learns from it. -/
structure RetryPolicy (σ : Type) where
  decide : σ → RecoveryFeatures → PolicyContext → RecoveryDecision
  update : σ → RecoveryFeatures → RecoveryDecision → ℚ → σ

/-- The processing fee of an attempt in `DEFAULT_COST_MODEL`. -/
def attemptFeeMinor : ℚ := 15

/-- What to do about a decline, whenever it is done. -/
inductive RecommendedAction where
  | retry | cardUpdate | suppress
  deriving DecidableEq, Repr

/-- A step of a planned sequence. -/
structure RetryStep where
  attemptNumber : ℕ
  /-- `at` -/
  time : String
  action : RecommendedAction
  /-- the method to charge, if any -/
  methodRef : Option String := none
  expectedRecoverability : ℚ
  rationale : String

/-! ## The feature store -/

/-- A Beta prior, as pseudo-counts. -/
structure BetaPrior where
  alpha : ℚ
  beta : ℚ

/-- A prior of a given mean and strength. -/
def betaFromMeanStrength (mean strength : ℚ) : BetaPrior :=
  let m := if mean < 0 then 0 else if mean > 1 then 1 else mean
  ⟨m * strength, (1 - m) * strength⟩

/-- An empirical rate, shrunk toward its prior. -/
def shrinkRate (successes total : ℕ) (prior : BetaPrior) : ℚ :=
  (successes + prior.alpha) / (total + prior.alpha + prior.beta)

/-- What a look-up of a BIN yields. -/
structure BinInfo where
  region : IssuerRegion
  issuerId : Option String := none
  cardType : Option CardProductType := none

/-- The configuration of a store; the BIN table is the one of the deployment. -/
structure FeatureStoreConfig where
  customerPrior : BetaPrior
  issuerPrior : BetaPrior
  lookup : Option String → BinInfo

/-- The priors of `DEFAULT_FEATURE_STORE_CONFIG`, with a table that knows no BIN. -/
def defaultFeatureStoreConfig : FeatureStoreConfig where
  customerPrior := betaFromMeanStrength (7 / 20) 8
  issuerPrior := betaFromMeanStrength (1 / 2) 10
  lookup _ := ⟨.unknown, none, none⟩

/-- What is known of a failed invoice when it is decided on. -/
structure EnrichmentContext where
  merchantId : String
  customerId : String
  bin : Option String
  customerCreatedAt : Option String
  firstFailedAt : Option String
  declineCode : DeclineCode
  amountMinor : ℚ
  currency : String
  attemptNumber : ℕ
  now : String

structure CustomerAgg where
  total : ℕ
  recovered : ℕ
  firstSeen : String
  createdAt : Option String := none

structure IssuerAgg where
  total : ℕ
  recovered : ℕ

/-- Days between two instants, `0` if they are not ordered. -/
def daysBetween (fromIso : Option String) (toIso : String) : ℚ :=
  match fromIso.bind Date.parse, Date.parse toIso with
  | some a, some b => if b - a > 0 then ((b - a : ℤ) : ℚ) / Date.msPerDay else 0
  | _, _ => 0

/-- A text that is present and not empty. -/
def truthy (s : Option String) : Option String := s.filter fun s => s ≠ ""

structure FeatureStore where
  customers : Map String CustomerAgg
  issuers : Map String IssuerAgg

namespace FeatureStore

/-- A store that has seen nothing. -/
def empty : FeatureStore := ⟨Map.empty, Map.empty⟩

/-- The key of a customer (`` `${merchantId}:${customerId}` ``). -/
def customerKey (merchantId customerId : String) : String := merchantId ++ ":" ++ customerId

/-- The key of an issuer: its identity if the table knows it, else the first eight digits. -/
def issuerKeyFor (cfg : FeatureStoreConfig) (bin : Option String) : Option String := do
  let b ← truthy bin
  truthy (some ((cfg.lookup bin).issuerId.getD
    (String.ofList ((b.toList.filter Char.isDigit).take 8))))

/-- A customer after a contact: the earliest instant is kept, and the first signup date. -/
def seen (c : Option CustomerAgg) (now : String) (customerCreatedAt : Option String) :
    CustomerAgg :=
  match c with
  | none => ⟨0, 0, now, customerCreatedAt⟩
  | some c =>
    let earlier := match Date.parse now, Date.parse c.firstSeen with
      | some a, some b => decide (a < b)
      | _, _ => false
    { c with
      firstSeen := if earlier then now else c.firstSeen
      createdAt := if (truthy c.createdAt).isNone then (truthy customerCreatedAt).or c.createdAt
        else c.createdAt }

/-- Stamp the first contact with a customer. -/
def observe (st : FeatureStore) (merchantId customerId now : String)
    (customerCreatedAt : Option String) : FeatureStore :=
  let key := customerKey merchantId customerId
  { st with customers := st.customers.set key (seen (st.customers.get key) now customerCreatedAt) }

/-- Record a realized outcome for the customer and, when the BIN is known, the issuer. -/
def recordOutcome (cfg : FeatureStoreConfig) (st : FeatureStore) (merchantId customerId : String)
    (bin : Option String) (recovered : Bool) (now : String) : FeatureStore :=
  let key := customerKey merchantId customerId
  let c := (st.customers.get key).getD ⟨0, 0, now, none⟩
  let win := if recovered then 1 else 0
  let customers := st.customers.set key
    { c with total := c.total + 1, recovered := c.recovered + win }
  match issuerKeyFor cfg bin with
  | none => { st with customers }
  | some ik =>
    let a := (st.issuers.get ik).getD ⟨0, 0⟩
    { customers, issuers := st.issuers.set ik ⟨a.total + 1, a.recovered + win⟩ }

/-- The feature vector of a failure, from the accumulated history. -/
def enrich (cfg : FeatureStoreConfig) (st : FeatureStore) (ctx : EnrichmentContext) :
    RecoveryFeatures :=
  let c := st.customers.get (customerKey ctx.merchantId ctx.customerId)
  let issuer := (issuerKeyFor cfg ctx.bin).bind st.issuers.get
  let tenureSource := ctx.customerCreatedAt.or ((c.bind CustomerAgg.createdAt).or
    ((c.map CustomerAgg.firstSeen).or (some ctx.now)))
  let binInfo := cfg.lookup ctx.bin
  { declineCode := ctx.declineCode
    amountMinor := ctx.amountMinor
    currency := ctx.currency
    issuerRegion := binInfo.region
    cardType := binInfo.cardType.getD .unknown
    customerTenureDays := daysBetween (truthy tenureSource) ctx.now
    priorRecoveryRate := shrinkRate ((c.map CustomerAgg.recovered).getD 0)
      ((c.map CustomerAgg.total).getD 0) cfg.customerPrior
    attemptNumber := ctx.attemptNumber
    daysSinceFirstFail := daysBetween (truthy ctx.firstFailedAt) ctx.now
    issuerApprovalPrior := shrinkRate ((issuer.map IssuerAgg.recovered).getD 0)
      ((issuer.map IssuerAgg.total).getD 0) cfg.issuerPrior }

@[simp] theorem enrich_declineCode (cfg : FeatureStoreConfig) (st : FeatureStore)
    (ctx : EnrichmentContext) : (st.enrich cfg ctx).declineCode = ctx.declineCode := rfl

/-- Features depend on the customer's aggregate and on the issuers. -/
theorem enrich_congr (cfg : FeatureStoreConfig) {st st' : FeatureStore} {ctx : EnrichmentContext}
    (hc : st.customers.get (customerKey ctx.merchantId ctx.customerId) =
      st'.customers.get (customerKey ctx.merchantId ctx.customerId))
    (hi : st.issuers = st'.issuers) : st.enrich cfg ctx = st'.enrich cfg ctx := by
  simp only [enrich, hc, hi]

/-- What `observe` leaves at a key depends on what was there. -/
theorem observe_get_congr {st st' : FeatureStore} (merchantId customerId now : String)
    (createdAt : Option String) {k : String}
    (h : st.customers.get k = st'.customers.get k) :
    (st.observe merchantId customerId now createdAt).customers.get k =
      (st'.observe merchantId customerId now createdAt).customers.get k := by
  by_cases hk : k = customerKey merchantId customerId
  · subst hk
    simp [observe, h]
  · simp [observe, Map.get_set, hk, h]

/-- `observe` leaves the other customers alone. -/
theorem observe_get_ne (st : FeatureStore) (merchantId customerId now : String)
    (createdAt : Option String) {k : String} (hk : k ≠ customerKey merchantId customerId) :
    (st.observe merchantId customerId now createdAt).customers.get k = st.customers.get k :=
  Map.get_set_ne _ hk _

@[simp] theorem observe_issuers (st : FeatureStore) (merchantId customerId now : String)
    (createdAt : Option String) :
    (st.observe merchantId customerId now createdAt).issuers = st.issuers := rfl

theorem recordOutcome_customers (cfg : FeatureStoreConfig) (st : FeatureStore)
    (merchantId customerId : String) (bin : Option String) (recovered : Bool) (now : String) :
    (st.recordOutcome cfg merchantId customerId bin recovered now).customers =
      let c := (st.customers.get (customerKey merchantId customerId)).getD ⟨0, 0, now, none⟩
      st.customers.set (customerKey merchantId customerId)
        { c with total := c.total + 1, recovered := c.recovered + if recovered then 1 else 0 } := by
  unfold recordOutcome
  cases issuerKeyFor cfg bin <;> rfl

/-- What `recordOutcome` leaves at a customer depends on what was there. -/
theorem recordOutcome_get_congr (cfg : FeatureStoreConfig) {st st' : FeatureStore}
    (merchantId customerId : String) (bin : Option String) (recovered : Bool) (now : String)
    {k : String} (h : st.customers.get k = st'.customers.get k) :
    (st.recordOutcome cfg merchantId customerId bin recovered now).customers.get k =
      (st'.recordOutcome cfg merchantId customerId bin recovered now).customers.get k := by
  rw [recordOutcome_customers, recordOutcome_customers]
  by_cases hk : k = customerKey merchantId customerId
  · subst hk
    simp [h]
  · simp [Map.get_set, hk, h]

theorem recordOutcome_issuers_congr (cfg : FeatureStoreConfig) {st st' : FeatureStore}
    (merchantId customerId : String) (bin : Option String) (recovered : Bool) (now : String)
    (h : st.issuers = st'.issuers) :
    (st.recordOutcome cfg merchantId customerId bin recovered now).issuers =
      (st'.recordOutcome cfg merchantId customerId bin recovered now).issuers := by
  unfold recordOutcome
  cases issuerKeyFor cfg bin with
  | none => exact h
  | some ik => simp only [h]

/-- `recordOutcome` leaves the other customers alone. -/
theorem recordOutcome_get_ne (cfg : FeatureStoreConfig) (st : FeatureStore)
    (merchantId customerId : String) (bin : Option String) (recovered : Bool) (now : String)
    {k : String} (hk : k ≠ customerKey merchantId customerId) :
    (st.recordOutcome cfg merchantId customerId bin recovered now).customers.get k =
      st.customers.get k := by
  rw [recordOutcome_customers]
  simp [Map.get_set, hk]

end FeatureStore

end AX10M
