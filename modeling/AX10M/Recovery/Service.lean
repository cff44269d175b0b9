/-
  `RecoveryCaseService`: the recovery case, from the webhook's event to the charge.

  The methods are those of the source, in its order of effects: the engine
  proposes, the guardrail disposes, and only then does the adapter move money.
  Logging is left out.
-/
import AX10M.Recovery.Ops

namespace AX10M

open Js Effects

/-- The settings of a service, made before it ingests. -/
structure RecoveryCaseService where
  sha256 : Digest
  holdoutConfig : HoldoutConfig := defaultHoldoutConfig
  /-- `enableDurableDispatch` was called -/
  durableRecovery : Bool := false
  liveCharging : Bool := false
  dunningConfig : Option DunningCommsConfig := none
  /-- a send transport is wired -/
  dunningSender : Bool := false
  liveComms : Bool := false

/-! ## Strata and networks -/

/-- Coarse MRR tier of an amount in minor units. -/
def mrrTierFromAmount (minor : MinorUnits) : MrrTier :=
  if minor < 2000 then .micro
  else if minor < 10000 then .small
  else if minor < 50000 then .mid
  else if minor < 200000 then .large
  else .enterprise

/-- The stratum of a failed invoice. -/
def deriveStratum (invoice : Invoice) (decline : Option DeclineEvent) : Stratum where
  mrrTier := mrrTierFromAmount invoice.amount.amount
  declineFamily := (decline.map DeclineEvent.family).getD .gray
  issuerRegion := .unknown

/-- The network of a processor's card brand. -/
def mapCardNetwork (brand : Option String) : CardNetwork :=
  match (brand.getD "").toLower with
  | "visa" => .visa
  | "mastercard" | "master" => .mastercard
  | "amex" | "american express" | "american_express" => .amex
  | "discover" => .discover
  | _ => .other

/-- The key of a credential in the attempt counters. -/
def credentialKey (invoiceId : String) (method : PaymentMethod) : String :=
  invoiceId ++ ":" ++ method.token

/-- The key of a sent message. -/
def sendKey (invoice : Invoice) (attemptNumber : ℕ) (channel : DunningChannel) : String :=
  ":".intercalate [invoice.merchantId, invoice.id, toString attemptNumber, channel.text]

/-! ## What is left of a recovery -/

/-- The cap of a reversal (`netRecoveredForInvoice`). -/
def netRecovered (entries : List LedgerEntry) (invoiceId : String) : ℚ :=
  entries.foldl (fun net e =>
    if e.isFor invoiceId then
      match e.type with
      | .caseRecovered => net + e.amount
      | .caseReversed => net - e.amount
      | _ => net
    else net) 0

/-- The cap of a reinstatement (`netReversedForInvoice`). -/
def netReversed (entries : List LedgerEntry) (invoiceId : String) : ℚ :=
  entries.foldl (fun reversed e =>
    if e.isFor invoiceId then
      match e.type with
      | .caseReversed => reversed + e.amount
      | .caseReversalReverted => reversed - e.amount
      | _ => reversed
    else reversed) 0

/-- The detail of a reversal or reinstatement. -/
def reversalDetail (p : ReversalPayload) (processorId : Option String) (amount : ℚ) : Record :=
  [("invoiceId", .str p.invoiceId)] ++ Record.opt "processor" (processorId.map .str) ++
    [("amount", .num amount), ("currency", .str p.currency), ("kind", .str p.kind.text)] ++
    Record.opt "reason" (p.reason.map .str)

/-- The detail of a holdout assignment. -/
def assignedDetail (invoice : Invoice) (a : Assignment) : Record :=
  [("invoiceId", .str invoice.id), ("customerId", .str invoice.customerId),
    ("bucket", .str a.bucket.text), ("stratumKey", .str a.stratumKey),
    ("amount", .num invoice.amount.amount), ("currency", .str invoice.amount.currency)]

/-- The detail of a realized charge. -/
def chargeDetail (invoice : Invoice) (processor key : String) (r : ChargeResult) : Record :=
  [("invoiceId", .str invoice.id), ("processor", .str processor), ("idempotencyKey", .str key),
    ("outcome", .str r.outcome.text), ("idempotentReplay", .bool r.idempotentReplay)] ++
    Record.opt "declineCode" (r.declineCode.map fun c => .str c.text)

/-- The detail of a recovered case. -/
def recoveredDetail (invoice : Invoice) (processor : String) (attemptNumber : ℕ) : Record :=
  [("invoiceId", .str invoice.id), ("processor", .str processor),
    ("amount", .num invoice.amount.amount), ("currency", .str invoice.amount.currency),
    ("attemptNumber", .num attemptNumber)]

inductive RecoveryResult where
  | suppressed | shadowed | attempted
  deriving DecidableEq, Repr

/-- The outcome of an end-to-end decision. -/
inductive RecoveryActionOutcome where
  | cardUpdateComms | suppress | suppressed | shadowed | attempted
  deriving DecidableEq, Repr

/-- An engine action that is not a retry, as an outcome. -/
def RecoveryActionKind.outcome : RecoveryActionKind → RecoveryActionOutcome
  | .cardUpdateComms => .cardUpdateComms
  | .suppress => .suppress
  | .retry => .attempted

/-- The result of an attempt, as an outcome. -/
def RecoveryResult.outcome : RecoveryResult → RecoveryActionOutcome
  | suppressed => .suppressed | shadowed => .shadowed | attempted => .attempted

/-- What one execution is given (`executeRecovery`'s parameters, its adapter apart). -/
structure ExecuteParams where
  invoice : Invoice
  method : PaymentMethod
  decline : Option DeclineEvent := none
  attemptNumber : ℕ
  localHour : Option ℤ := none
  minutesSinceLastAttempt : Option ℚ := none
  customer : Option Customer := none
  nowIso : Option String := none
  shadow : Bool

structure ExecuteOutcome where
  action : RecoveryActionOutcome
  outcome : Option ChargeOutcome := none
  decision : RecoveryDecision

namespace RecoveryCaseService

variable (s : RecoveryCaseService)

/-- The idempotency key of a charge of an invoice. -/
def chargeKey (invoice : Invoice) (method : PaymentMethod) (attemptNumber : ℕ) : String :=
  idempotencyKey s.sha256 ⟨invoice.merchantId, invoice.id, method.id, attemptNumber⟩

/-! ## Reversals -/

/-- Record a reversal of a payment we recovered. -/
def recordReversal (p : ReversalPayload) (merchantId occurredAt : String)
    (processorId : Option String) : Async Unit := do
  let net := netRecovered (← call .ledgerAll) p.invoiceId
  if net ≤ 0 then return ()
  else
    let amount := min p.amount net
    call (.ledgerAppend ⟨merchantId, .caseReversed, occurredAt,
      reversalDetail p processorId amount⟩)

/-- Record a reinstatement of a reversed payment. -/
def recordReversalReverted (p : ReversalPayload) (merchantId occurredAt : String)
    (processorId : Option String) : Async Unit := do
  let reversed := netReversed (← call .ledgerAll) p.invoiceId
  if reversed ≤ 0 then return ()
  else
    let amount := min p.amount reversed
    call (.ledgerAppend ⟨merchantId, .caseReversalReverted, occurredAt,
      reversalDetail p processorId amount⟩)

/-! ## Opening a case -/

/-- Open a case: assign the arm, and append it to the ledger the first time this instance
    sees the invoice. -/
def openCase (invoice : Invoice) (stratum : Stratum) (occurredAt : String) : Async Bucket := do
  match assign s.sha256 ⟨invoice.merchantId, some invoice.customerId, invoice.id, stratum⟩
      s.holdoutConfig with
  | .error message => return (← call (.throw message)).elim
  | .ok assignment =>
    let opened : Bool ← call (.openedInvoicesHas invoice.id)
    if opened then return assignment.bucket
    else
      call (.openedInvoicesAdd invoice.id)
      call (.ledgerAppend ⟨invoice.merchantId, .holdoutAssigned, occurredAt,
        assignedDetail invoice assignment⟩)
      return assignment.bucket

/-! ## Charging -/

/-- The saga's time, or the wall clock. -/
def stampOr (nowIso : Option String) : Async String := do
  match nowIso with
  | some t => return t
  | none => newDateIso

/-- Feed a realized outcome to the feature store. -/
def recordOutcomeNow (invoice : Invoice) (method : PaymentMethod) (outcome : ChargeOutcome) :
    Async Unit := do
  if outcome = .pending then return ()
  else
    let now ← newDateIso
    call (.recordOutcome invoice.merchantId invoice.customerId method.bin
      (outcome = .succeeded) now)

/-- The entries of a realized charge: the charge, and the recovery if it succeeded. -/
def recordCharge (adapter : ProcessorAdapter) (invoice : Invoice) (key : String)
    (attemptNumber : ℕ) (result : ChargeResult) : Async Unit := do
  appendNow invoice.merchantId
    (if result.outcome = .succeeded then .chargeSucceeded else .chargeFailed)
    (chargeDetail invoice adapter.id key result)
  if result.outcome = .succeeded then
    appendNow invoice.merchantId .caseRecovered (recoveredDetail invoice adapter.id attemptNumber)
  else return ()

/-- Move money: charge under the key of the attempt, count the attempt on the credential, and
    record the outcome. -/
def chargeLive (adapter : ProcessorAdapter) (invoice : Invoice) (method : PaymentMethod)
    (attemptNumber : ℕ) (nowIso : Option String) : Async ChargeOutcome := do
  let key := s.chargeKey invoice method attemptNumber
  let attempts ← call (.attemptsGet invoice.id)
  call (.attemptsSet invoice.id (max (attempts.getD 0) attemptNumber))
  let result ← call (.attemptCharge adapter invoice method key)
  let stamp ← stampOr nowIso
  call (.credentialIncrement (credentialKey invoice.id method) stamp)
  recordCharge adapter invoice key attemptNumber result
  recordOutcomeNow invoice method result.outcome
  return result.outcome

/-- Attempt (in shadow mode, note) a charge, if the guardrail allows it. -/
def attemptRecovery (adapter : ProcessorAdapter) (invoice : Invoice) (method : PaymentMethod)
    (proposed : ProposedAction) (attemptNumber : ℕ) (nowIso : Option String) (shadow : Bool) :
    Async (RecoveryResult × Option ChargeOutcome) := do
  match evaluate proposed with
  | .suppress reason message =>
    appendNow invoice.merchantId .actionSuppressed
      [("invoiceId", .str invoice.id), ("reason", .str reason.text), ("message", .str message)]
    return (.suppressed, none)
  | .allow =>
    if shadow then
      appendNow invoice.merchantId .chargeAttempted
        [("invoiceId", .str invoice.id),
          ("idempotencyKey", .str (s.chargeKey invoice method attemptNumber)),
          ("shadow", .bool true)]
      return (.shadowed, none)
    else
      let outcome ← s.chargeLive adapter invoice method attemptNumber nowIso
      return (.attempted, some outcome)

/-! ## Planning -/

/-- The enriched features of a case. -/
def featuresFor (invoice : Invoice) (bin : Option String) (decline : Option DeclineEvent)
    (attemptNumber : ℕ) (customer : Option Customer) : Async RecoveryFeatures := do
  let now ← newDateIso
  call (.enrich {
    merchantId := invoice.merchantId
    customerId := invoice.customerId
    bin
    customerCreatedAt := customer.map Customer.createdAt
    firstFailedAt := invoice.firstFailedAt
    declineCode := (decline.map DeclineEvent.code).getD .unknown
    amountMinor := invoice.amount.amount
    currency := invoice.amount.currency
    attemptNumber
    now })

/-- The method of a case, as the policy sees it. -/
def availableMethod (m : PaymentMethod) : AvailableMethod := ⟨m.processorRef, true, m.autoUpdated⟩

/-- Run the engine for one attempt and record its decision. -/
def planAttempt (invoice : Invoice) (method : Option PaymentMethod)
    (decline : Option DeclineEvent) (attemptNumber : ℕ) : Async RecoveryDecision := do
  let features ← featuresFor invoice (method.bind PaymentMethod.bin) decline attemptNumber none
  let now ← newDateIso
  let decision ← call (.decide features
    { now, methods := (method.map availableMethod).toList })
  appendNow invoice.merchantId .recoveryPlanned
    [("invoiceId", .str invoice.id), ("action", .str decision.action.text),
      ("retryAt", (decision.retryAt.map .str).getD .null),
      ("recoverabilityScore", .num decision.recoverabilityScore),
      ("expectedValueMinor", .num decision.expectedValueMinor),
      ("rationale", .str decision.rationale), ("features", features.json), ("shadow", .bool true)]
  return decision

/-- The inline plan of a treatment case. -/
def planRecovery (invoice : Invoice) (decline : Option DeclineEvent) : Async RecoveryDecision := do
  let attempts ← call (.attemptsGet invoice.id)
  planAttempt invoice none decline (attempts.getD 0 + 1)

/-- Hand a treatment case to the durable saga. -/
def dispatchDurableRecovery (invoice : Invoice) (method : PaymentMethod)
    (decline : Option DeclineEvent) (customer : Option Customer) : Async Unit :=
  call (.dispatch ⟨invoice.id, { invoice, method, decline, customer }, !s.liveCharging⟩)

/-! ## Messages -/

/-- Compose the card-update message, if messages are configured. -/
def composeDunning (invoice : Invoice) (method : PaymentMethod) (declineCode : DeclineCode) :
    Async (Option DunningMessage) := do
  match s.dunningConfig with
  | none => return none
  | some cfg =>
    return some (← call (.compose {
      channel := cfg.channel.getD .email
      declineCode
      merchantName := (cfg.merchantName invoice.merchantId).getD invoice.merchantId
      amountMinor := invoice.amount.amount
      currency := invoice.amount.currency
      updateCardUrl := cfg.updateCardUrl invoice invoice.customerId
      optOutInstruction := cfg.optOutInstruction
      cardLast4 := method.last4 }))

/-- The hour of the customer, or of the wall clock. -/
def localHourOr (localHour : Option ℤ) : Async ℤ := do
  match localHour with
  | some h => return h
  | none => return Date.hours (← call .now)

/-- The guardrail's check of a message. -/
def commsAction (channel : DunningChannel) (declineCode : DeclineCode)
    (consent : Option ConsentState) (localHour : ℤ) : ProposedAction where
  kind := .comms
  channel := some channel.comms
  declineCode := declineCode
  declineFamily := familyOf declineCode
  attemptsSoFar := 0
  localHour := localHour
  hasConsent := match channel with
    | .sms => (consent.map ConsentState.sms).getD false
    | .email => (consent.map ConsentState.email).getD false
  globallyOptedOut := (consent.map ConsentState.globallyOptedOut).getD false

/-- Deliver a composed message, gated by the guardrail; `none` if no sender is wired. -/
def deliverDunning (message : DunningMessage) (invoice : Invoice) (attemptNumber : ℕ)
    (declineCode : DeclineCode) (customer : Option Customer) (localHour : Option ℤ) :
    Async (Option DunningDeliveryRecord) := do
  if !s.dunningSender then return none
  else
    let channel := message.channel
    let hour ← localHourOr localHour
    match evaluate (commsAction channel declineCode (customer.map Customer.consent) hour) with
    | .suppress reason _ =>
      return some { status := .suppressed, channel, reason := some reason.text }
    | .allow =>
      let recipient : DunningRecipient :=
        ⟨channel, customer.bind Customer.email, customer.bind Customer.phone⟩
      if (truthy recipient.address).isNone then
        return some { status := .skipped, channel,
                      reason := some "no recipient address for channel" }
      else
        let key := sendKey invoice attemptNumber channel
        let sent : Bool ← call (.sendDedupeHas key)
        if sent then
          return some { status := .duplicate, channel,
                        reason := some "already sent for this attempt" }
        else
          let result ← call (.send s.liveComms message recipient)
          if result.status = .sent then call (.sendDedupeRecord key)
          return some { status := result.status.delivery, channel,
                        provider := some result.provider,
                        providerMessageId := result.providerMessageId,
                        attempts := result.attempts, reason := result.error }

/-! ## Executing an attempt -/

/-- The charge of a fresh credential, as the guardrail sees it. -/
def freshAction (features : RecoveryFeatures) (attemptNumber : ℕ) (m : PaymentMethod)
    (credWin : CredentialAttemptWindow) (localHour : ℤ) : ProposedAction where
  kind := .freshCredentialCharge
  declineCode := features.declineCode
  declineFamily := familyOf features.declineCode
  attemptsSoFar := (attemptNumber : ℤ) - 1
  cardNetwork := some (mapCardNetwork m.brand)
  attemptsInWindow := some credWin.attemptsInWindow
  minutesSinceLastAttempt := credWin.minutesSinceLastAttempt
  localHour := localHour
  hasConsent := true
  globallyOptedOut := false

/-- Charge a fresh credential. -/
def chargeFresh (adapter : ProcessorAdapter) (p : ExecuteParams) (features : RecoveryFeatures)
    (m : PaymentMethod) (via : String) : Async (Option ChargeOutcome) := do
  appendNow p.invoice.merchantId .recoveryPlanned
    [("invoiceId", .str p.invoice.id), ("action", .str via), ("methodRef", .str m.processorRef)]
  let credWin ← call (.credentialWindow (credentialKey p.invoice.id m) p.nowIso)
  let hour := Date.hours (← call .now)
  let exec ← s.attemptRecovery adapter p.invoice m
    (freshAction features p.attemptNumber m credWin hour) p.attemptNumber p.nowIso false
  return exec.2

/-- The refreshed card of a case, if it is another one. -/
def refreshed (p : ExecuteParams) (updated : Option PaymentMethod) : Option PaymentMethod :=
  updated.filter fun u => u.token ≠ p.method.token

/-- The first stored method that is neither the card of the case nor the refreshed one. -/
def backupMethod (p : ExecuteParams) (updated : Option PaymentMethod)
    (methods : List PaymentMethod) : Option PaymentMethod :=
  methods.find? fun m => m.id ≠ p.method.id ∧ ∀ u ∈ updated, m.id ≠ u.id

/-- Charge a stored backup method of the customer. -/
def alternateRail (adapter : ProcessorAdapter) (p : ExecuteParams) (features : RecoveryFeatures)
    (updated : Option PaymentMethod) : Async Bool := do
  match p.customer with
  | none => return false
  | some customer =>
    let methods ← call (.listPaymentMethods adapter customer)
    match backupMethod p updated methods with
    | none => return false
    | some backup =>
      let outcome ← s.chargeFresh adapter p features backup "alternate_rail"
      return outcome = some .succeeded

/-- Recover on another credential: the refreshed card, then a stored backup method.  The
    result is whether one of the charges succeeded. -/
def executeCredentialRecovery (adapter : ProcessorAdapter) (p : ExecuteParams)
    (features : RecoveryFeatures) : Async Bool := do
  let updated ← call (.fetchUpdatedCard adapter p.method)
  match refreshed p updated with
  | none => s.alternateRail adapter p features updated
  | some u =>
    let outcome ← s.chargeFresh adapter p features u "card_refresh"
    if outcome = some .succeeded then return true
    else s.alternateRail adapter p features updated

/-- The message of a case: a live case of a dead credential gets one. -/
def caseMessage (p : ExecuteParams) (features : RecoveryFeatures) (decision : RecoveryDecision) :
    Async (Option DunningMessage) :=
  if decision.action = .cardUpdateComms ∧ !p.shadow then
    s.composeDunning p.invoice p.method features.declineCode
  else return none

/-- The delivery of the message of a case. -/
def caseDelivery (p : ExecuteParams) (features : RecoveryFeatures) :
    Option DunningMessage → Async (Option DunningDeliveryRecord)
  | some message =>
    s.deliverDunning message p.invoice p.attemptNumber features.declineCode p.customer p.localHour
  | none => return none

/-- The end of a case the engine does not retry: its message, and the entry that says so. -/
def concludeWithoutRetry (adapter : ProcessorAdapter) (p : ExecuteParams)
    (features : RecoveryFeatures) (decision : RecoveryDecision) : Async ExecuteOutcome := do
  let message ← s.caseMessage p features decision
  let delivery ← s.caseDelivery p features message
  appendNow p.invoice.merchantId
    (if decision.action = .cardUpdateComms then .commsSent else .actionSuppressed)
    ([("invoiceId", .str p.invoice.id), ("processor", .str adapter.id),
      ("reason", .str decision.action.text), ("rationale", .str decision.rationale)] ++
      Record.opt "message" (message.map DunningMessage.json) ++
      Record.opt "delivery" (delivery.map DunningDeliveryRecord.json))
  return ⟨decision.action.outcome, none, decision⟩

/-- The retry of the card of the case, as the guardrail sees it. -/
def retryAction (p : ExecuteParams) (features : RecoveryFeatures)
    (credWin : CredentialAttemptWindow) (localHour : ℤ) : ProposedAction where
  kind := .chargeRetry
  declineCode := features.declineCode
  declineFamily := familyOf features.declineCode
  attemptsSoFar := (p.attemptNumber : ℤ) - 1
  cardNetwork := some (mapCardNetwork p.method.brand)
  attemptsInWindow := some credWin.attemptsInWindow
  minutesSinceLastAttempt :=
    credWin.minutesSinceLastAttempt.or (p.minutesSinceLastAttempt.map some)
  localHour := localHour
  hasConsent := true
  globallyOptedOut := false

/-- Feed a realized outcome back to the policy. -/
def learnOnline (features : RecoveryFeatures) (decision : RecoveryDecision)
    (outcome : Option ChargeOutcome) (amountMinor : MinorUnits) : Async Unit := do
  match outcome with
  | some .succeeded => call (.update features decision (amountMinor - attemptFeeMinor))
  | some .failed => call (.update features decision (-attemptFeeMinor))
  | _ => return ()

/-- Retry the card of the case: guardrail, charge, and what is learned from it. -/
def retryCharge (adapter : ProcessorAdapter) (p : ExecuteParams) (features : RecoveryFeatures)
    (credWin : CredentialAttemptWindow) (decision : RecoveryDecision) : Async ExecuteOutcome := do
  let hour ← localHourOr p.localHour
  let exec ← s.attemptRecovery adapter p.invoice p.method
    (retryAction p features credWin hour) p.attemptNumber p.nowIso p.shadow
  learnOnline features decision exec.2 p.invoice.amount.amount
  return ⟨exec.1.outcome, exec.2, decision⟩

/-- The end-to-end path of one attempt: the engine proposes, the guardrail disposes, the
    adapter charges. -/
def executeRecovery (adapter : ProcessorAdapter) (p : ExecuteParams) : Async ExecuteOutcome := do
  let features ← featuresFor p.invoice p.method.bin p.decline p.attemptNumber p.customer
  let network := mapCardNetwork p.method.brand
  let credWin ← call (.credentialWindow (credentialKey p.invoice.id p.method) p.nowIso)
  let now ← newDateIso
  let decision ← call (.decide features
    { now, methods := [availableMethod p.method],
      compliance := some ⟨credWin.attemptsInWindow,
        defaultGuardrailPolicy.networkCaps.map fun caps => (caps network).maxAttemptsPerWindow,
        none⟩ })
  appendNow p.invoice.merchantId .recoveryPlanned
    [("invoiceId", .str p.invoice.id), ("action", .str decision.action.text),
      ("retryAt", (decision.retryAt.map .str).getD .null),
      ("expectedValueMinor", .num decision.expectedValueMinor),
      ("rationale", .str decision.rationale), ("features", features.json),
      ("shadow", .bool p.shadow)]
  if decision.action ≠ .retry then
    if decision.action = .cardUpdateComms ∧ !p.shadow then
      if ← s.executeCredentialRecovery adapter p features then
        return ⟨.attempted, some .succeeded, decision⟩
      else s.concludeWithoutRetry adapter p features decision
    else s.concludeWithoutRetry adapter p features decision
  else s.retryCharge adapter p features credWin decision

/-! ## Events -/

/-- A failed invoice: open its case, feed the stores, plan and dispatch treatment cases. -/
def handleFailure (event : CanonicalEvent) (payload : FailurePayload) (invoice : Invoice) :
    Async Unit := do
  let stratum := deriveStratum invoice payload.decline
  let bucket ← s.openCase invoice stratum event.occurredAt
  call (.observe invoice.merchantId invoice.customerId event.occurredAt
    (payload.customer.map Customer.createdAt))
  call (.recordFailure invoice.merchantId invoice.id
    ((payload.decline.map DeclineEvent.code).getD .unknown) invoice.amount.amount)
  match bucket with
  | .control => return ()
  | .treatment =>
    let _ ← planRecovery invoice payload.decline
    match payload.method with
    | some method =>
      if s.durableRecovery then
        s.dispatchDurableRecovery invoice method payload.decline payload.customer
      else return ()
    | none => return ()

/-- Handle a canonical event. -/
def handleEvent (event : CanonicalEvent) (processorId : Option String) : Async Unit :=
  match event.body with
  | .paymentReversed p => recordReversal p event.merchantId event.occurredAt processorId
  | .paymentReversalReverted p =>
    recordReversalReverted p event.merchantId event.occurredAt processorId
  | .invoiceFailed payload =>
    match payload.invoice with
    | some invoice => s.handleFailure event payload invoice
    | none => return ()
  | .invoicePaid invoice =>
    match invoice with
    | some invoice => call (.recordBaselineRecovery invoice.merchantId invoice.id)
    | none => return ()
  | _ => return ()

end RecoveryCaseService

end AX10M
