/-
  The PayPal adapter: its webhooks, and the charges it drives (`adapters/paypal`).

  A resource has the fields of a capture or sale, of a refund and of a dispute, of which each kind
  of webhook reads its own.
-/
import AX10M.Js.Number
import AX10M.Js.Fixed
import AX10M.Poal
import AX10M.Poal.Ingress

namespace AX10M

open Js

structure PpAmount where
  value : Option String := none
  currencyCode : Option String := none

structure PpLink where
  href : Option String := none
  rel : Option String := none

structure PpDisputedTransaction where
  sellerTransactionId : Option String := none
  invoiceNumber : Option String := none
  custom : Option String := none

/-- The resource of a webhook. -/
structure PpResource where
  id : Option String := none
  amount : Option PpAmount := none
  customId : Option String := none
  invoiceId : Option String := none
  reason : Option String := none
  statusReason : Option String := none
  payerId : Option String := none
  emailAddress : Option String := none
  nationalNumber : Option String := none
  links : List PpLink := []
  disputeAmount : Option PpAmount := none
  disputedTransactions : List PpDisputedTransaction := []
  outcomeCode : Option String := none

structure PpWebhook where
  id : Option String := none
  eventType : Option String := none
  createTime : Option String := none
  resource : PpResource := {}

/-! ## Decline reasons -/

/-- The codes of issues and of processor responses. -/
def paypalDeclineMap : List (String × DeclineCode) :=
  [("instrument_declined", .doNotHonor), ("transaction_refused", .doNotHonor),
    ("card_refused", .doNotHonor), ("declined", .doNotHonor), ("do_not_honor", .doNotHonor),
    ("05", .doNotHonor), ("insufficient_funds", .insufficientFunds), ("51", .insufficientFunds),
    ("expired_card", .expiredCard), ("card_expired", .expiredCard), ("54", .expiredCard),
    ("card_closed", .closedAccount), ("closed_account", .closedAccount),
    ("authentication_required", .authenticationRequired),
    ("payer_action_required", .authenticationRequired),
    ("3d_secure_required", .authenticationRequired), ("try_again_later", .tryAgainLater),
    ("reattempt_transaction", .tryAgainLater), ("issuer_unavailable", .issuerUnavailable)]

/-- Rules for reasons in words. -/
def paypalDeclineRules : List (String × DeclineCode) :=
  [("authentication", .authenticationRequired), ("insufficient", .insufficientFunds),
    ("expired", .expiredCard), ("closed", .closedAccount), ("declined", .doNotHonor),
    ("refused", .doNotHonor)]

/-- The code of a decline reason. -/
def mapPaypalDeclineCode (raw : Option String) : DeclineCode :=
  match truthy raw with
  | none => .unknown
  | some raw =>
    let s := (trim raw).toLower
    ((paypalDeclineMap.lookup s).or (codeByRule paypalDeclineRules s)).getD .unknown

/-! ## Webhooks -/

/-- A decimal amount in hundredths (`majorToMinor`). -/
def majorToMinor (value : Option String) : MinorUnits :=
  match (truthy value).bind numberOf with
  | some n => Js.round (n * 100)
  | none => 0

namespace PpAmount

/-- The money of an amount that may be absent. -/
def money (amount : Option PpAmount) : Money :=
  ⟨majorToMinor (amount.bind PpAmount.value), (amount.bind PpAmount.currencyCode).getD "USD"⟩

end PpAmount

/-- The part of a link that names a capture, where it stands (`\/captures\/([^/?#]+)`). -/
def captureAt (cs : List Char) : Option (List Char) :=
  let id := (cs.drop "/captures/".length).takeWhile fun c => c ∉ ['/', '?', '#']
  if "/captures/".toList.isPrefixOf cs ∧ id ≠ [] then some id else none

/-- The capture that the links of a refund lead up to. -/
def captureIdFromRefundLinks (links : List PpLink) : Option String := do
  let up ← links.find? fun l => (l.rel.getD "").toLower = "up"
  let href ← truthy up.href
  (firstMatch captureAt href.toList).map String.ofList

/-- The adapter of a merchant; `webhookId` says whether its webhook is registered. -/
structure PayPalAdapter where
  merchantId : String
  webhookId : Bool := true

namespace PpResource

variable (resource : PpResource)

/-- The reference of a capture or sale. -/
def captureRef : String :=
  ((resource.invoiceId.or resource.customId).or resource.id).getD ""

/-- The reference of a refund's capture. -/
def refundRef : Option String :=
  (resource.invoiceId.or resource.customId).or (captureIdFromRefundLinks resource.links)

/-- The reference of a dispute's capture. -/
def disputeInvoiceRef : Option String := do
  let tx ← resource.disputedTransactions.find? fun t =>
    (truthy t.sellerTransactionId).isSome ∨ (truthy t.invoiceNumber).isSome ∨
      (truthy t.custom).isSome
  (tx.invoiceNumber.or tx.custom).or tx.sellerTransactionId

/-- The reason of a decline. -/
def declineReason : Option String := resource.statusReason.or resource.reason

end PpResource

namespace PayPalAdapter

variable (adapter : PayPalAdapter) (resource : PpResource)

/-- A capture or sale as an invoice. -/
def mapResourceInvoice (occurredAt : String) (failed : Bool) : Invoice where
  id := invoiceIdOf resource.captureRef
  customerId := (prefixed "ax10m_cus_" resource.payerId).getD ""
  merchantId := adapter.merchantId
  processorRef := resource.captureRef
  amount := PpAmount.money resource.amount
  status := if failed then .open else .paid
  firstFailedAt := if failed then some occurredAt else none
  createdAt := occurredAt

def mapResourceDecline (invoiceId chargeAttemptId occurredAt : String) : DeclineEvent where
  id := "ax10m_dec_" ++ resource.id.getD invoiceId
  invoiceId := invoiceId
  chargeAttemptId := chargeAttemptId
  code := mapPaypalDeclineCode resource.declineReason
  family := familyOf (mapPaypalDeclineCode resource.declineReason)
  rawReason := resource.declineReason
  occurredAt := occurredAt

/-- The body of a reversal or reinstatement that can be joined to a recovery. -/
def reversalBody (make : ReversalPayload → EventBody) (ref : Option String) (money : Money)
    (kind : ReversalKind) (reason : Option String) : Option EventBody := do
  let ref ← truthy ref
  if money.amount ≤ 0 then none
  else some (make ⟨invoiceIdOf ref, money.amount, money.currency, kind, reason⟩)

/-- The body of a webhook's event, if it is acted on. -/
def body (eventType : Option String) (occurredAt : String) : Option EventBody :=
  match eventType with
  | some "PAYMENT.CAPTURE.DENIED" | some "PAYMENT.SALE.DENIED"
  | some "BILLING.SUBSCRIPTION.PAYMENT.FAILED" =>
    let invoice := adapter.mapResourceInvoice resource occurredAt true
    some (.invoiceFailed {
      invoice := some invoice
      decline := some (mapResourceDecline resource invoice.id (attemptIdOf resource.id) occurredAt)
      customer := some (customerFromInvoice invoice
        (contactOverrides resource.emailAddress resource.nationalNumber)) })
  | some "PAYMENT.CAPTURE.COMPLETED" | some "PAYMENT.SALE.COMPLETED" =>
    some (.invoicePaid (some (adapter.mapResourceInvoice resource occurredAt false)))
  | some "PAYMENT.CAPTURE.REFUNDED" =>
    reversalBody .paymentReversed resource.refundRef (PpAmount.money resource.amount) .refund none
  | some "CUSTOMER.DISPUTE.CREATED" =>
    reversalBody .paymentReversed resource.disputeInvoiceRef
      (PpAmount.money resource.disputeAmount) .chargeback resource.reason
  | some "CUSTOMER.DISPUTE.RESOLVED" =>
    if resource.outcomeCode ≠ some "RESOLVED_SELLER_FAVOUR" then none
    else reversalBody .paymentReversalReverted resource.disputeInvoiceRef
      (PpAmount.money resource.disputeAmount) .chargeback
      (some (resource.reason.getD "dispute_resolved_seller_favour"))
  | some "BILLING.SUBSCRIPTION.CANCELLED" => some .subscriptionUpdated
  | _ => none

/-- The events of a webhook. -/
def mapWebhook (webhook : PpWebhook) : List CanonicalEvent :=
  let eventId := webhook.id.getD ""
  let occurredAt := toIso webhook.createTime
  ((adapter.body webhook.resource webhook.eventType occurredAt).map fun body =>
    ⟨"ax10m_evt_" ++ eventId, adapter.merchantId, eventId, occurredAt, body⟩).toList

/-- Verify and map a webhook. -/
def ingestWebhook (raw : RawWebhook PpWebhook) : Ingested :=
  if !adapter.webhookId then
    .error ("PayPalAdapter.ingestWebhook: webhookId not configured — refusing unverified webhook")
  else
    match raw.body with
    | none => .error "PayPalAdapter.ingestWebhook: body is not valid JSON"
    | some webhook =>
      if !raw.verified then
        .error ("PayPalAdapter.ingestWebhook: verify-webhook-signature did not return SUCCESS — " ++
          "refusing webhook")
      else .ok (adapter.mapWebhook webhook)

end PayPalAdapter

/-! ## Charges -/

/-- The order that a charge creates: the references, amount and token of its purchase unit. -/
structure PpOrderRequest where
  referenceId : Option String
  invoiceId : Option String := none
  customId : Option String := none
  amount : PpAmount
  token : String

structure PpCapture where
  status : Option String := none
  reason : Option String := none

/-- An order, with the captures of each purchase unit. -/
structure PpOrder where
  id : Option String := none
  status : Option String := none
  purchaseUnits : List (List PpCapture) := []

/-- An answer, and whether it replays one to the same key. -/
structure PpReply where
  order : PpOrder
  idempotentReplay : Bool := false

structure PayPalError where
  httpStatus : ℕ
  name : Option String := none
  /-- the issues of its details -/
  issues : List (Option String) := []

namespace PayPalError

/-- The issues of a charge that the issuer declined. -/
def paymentDeclineIssues : List String :=
  ["INSTRUMENT_DECLINED", "PAYER_ACTION_REQUIRED", "TRANSACTION_REFUSED", "INSUFFICIENT_FUNDS",
    "CARD_CLOSED", "CARD_EXPIRED"]

variable (err : PayPalError)

/-- The charge was declined by the issuer. -/
def isPaymentFailure : Bool :=
  err.httpStatus = 422 && err.issues.any fun issue =>
    let i := (issue.getD "").toUpper
    paymentDeclineIssues.contains i || includes i "DECLINED" || includes i "REFUSED"

/-- The first issue, or the name of the error. -/
def declineReason : Option String := (err.issues.findSome? truthy).or err.name

end PayPalError

/-- An amount in major units (`minorToMajor`). -/
def minorToMajor (amount : MinorUnits) : String := toFixed 2 (amount / 100)

namespace PayPalAdapter

/-- The order that is created for an invoice. -/
def orderRequest (invoice : Invoice) (method : PaymentMethod) : PpOrderRequest where
  referenceId := some invoice.processorRef
  amount := ⟨some (minorToMajor invoice.amount.amount), some invoice.amount.currency⟩
  token := method.token

/-- The first capture of an order. -/
def extractCapture (order : PpOrder) : Option PpCapture :=
  order.purchaseUnits.findSome? List.head?

/-- The result of a charge with a status. -/
def chargeResult (status : String) (capture : Option PpCapture) (replay : Bool) : ChargeResult :=
  let outcome : ChargeOutcome :=
    if status = "COMPLETED" then .succeeded else if status = "DECLINED" then .failed else .pending
  { outcome := outcome
    declineCode :=
      if outcome = .failed then some (mapPaypalDeclineCode (capture.bind PpCapture.reason))
      else none
    idempotentReplay := replay }

/-- Create an order for an invoice and capture it, unless that has been done; the two posts are
    those of the client. -/
def attemptCharge (create : PpOrderRequest → Except PayPalError PpReply)
    (capture : String → Except PayPalError PpReply) (invoice : Invoice) (method : PaymentMethod) :
    Except PayPalError ChargeResult :=
  let charged : Except PayPalError ChargeResult := do
    let created ← create (orderRequest invoice method)
    let status := created.order.status.getD ""
    let first := extractCapture created.order
    match truthy created.order.id with
    | some id =>
      if status = "CREATED" ∨ status = "APPROVED" then
        let captured ← capture id
        let last := (extractCapture captured.order).or first
        pure (chargeResult (((last.bind PpCapture.status).or captured.order.status).getD status)
          last (created.idempotentReplay || captured.idempotentReplay))
      else
        pure (chargeResult ((truthy (first.bind PpCapture.status)).getD status) first
          created.idempotentReplay)
    | none =>
      pure (chargeResult ((truthy (first.bind PpCapture.status)).getD status) first
        created.idempotentReplay)
  match charged with
  | .ok result => .ok result
  | .error err =>
    if err.isPaymentFailure then
      .ok { outcome := .failed, declineCode := some (mapPaypalDeclineCode err.declineReason) }
    else .error err

end PayPalAdapter

end AX10M
