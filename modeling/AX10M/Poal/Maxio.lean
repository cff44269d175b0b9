/-
  The Maxio adapter: webhooks of subscriptions, and the canonical events it makes of them
  (`adapters/maxio`).

  A payload has the fields the adapter reads; a field that is absent or null is `none`.
-/
import AX10M.Js.Number
import AX10M.Js.Json
import AX10M.Poal.Ingress

namespace AX10M

open Js

/-- What the adapter reads of a subscription. -/
structure ChSubscription where
  id : Option Json := none
  currency : Option String := none
  createdAt : Option Json := none
  updatedAt : Option Json := none
  customerId : Option Json := none
  email : Option String := none
  phone : Option String := none

/-- What the adapter reads of a transaction. -/
structure ChTransaction where
  id : Option Json := none
  amountInCents : Option Json := none
  createdAt : Option Json := none
  memo : Option Json := none

/-- The payload of a webhook: a subscription and a transaction, or the flat fields of a refund. -/
structure MaxioPayload where
  subscription : ChSubscription := {}
  transaction : ChTransaction := {}
  eventId : Option Json := none
  refundId : Option Json := none
  timestamp : Option Json := none
  message : Option Json := none
  subscriptionId : Option Json := none
  amountInCents : Option Json := none
  currency : Option Json := none
  memo : Option Json := none

/-- A parsed webhook, with the id of its header. -/
structure MaxioWebhook where
  webhookId : Option String := none
  event : String
  payload : MaxioPayload

/-- Rules for decline messages, specific ones first. -/
def maxioDeclineRules : List (String × DeclineCode) :=
  [("insufficient", .insufficientFunds), ("expired", .expiredCard), ("lost", .lostCard),
    ("stolen", .stolenCard), ("incorrect_number", .invalidCard), ("incorrect number", .invalidCard),
    ("invalid", .invalidCard), ("do not honor", .doNotHonor), ("do not honour", .doNotHonor),
    ("card_declined", .doNotHonor), ("declined", .doNotHonor)]

/-- The code of a decline message. -/
def mapMaxioDeclineCode (raw : Option String) : DeclineCode :=
  match truthy raw with
  | none => .unknown
  | some raw => (codeByRule maxioDeclineRules (trim raw).toLower).getD .unknown

/-- A number of cents, or its text (`CENTS`). -/
def centsOf : Option Json → MinorUnits
  | some (.num n) => n
  | some (.str s) => (numberOf s).getD 0
  | _ => 0

/-- The adapter of a merchant; `webhookSecret` says whether it has a shared key, and `numberText`
    is the text of a number (`String`). -/
structure MaxioAdapter where
  merchantId : String
  webhookSecret : Bool := true
  numberText : ℚ → String

namespace MaxioAdapter

variable (adapter : MaxioAdapter)

/-- The text of a string or of a number. -/
def asString : Option Json → Option String
  | some (.str s) => some s
  | some (.num n) => some (adapter.numberText n)
  | _ => none

/-- The reference of a subscription. -/
def subscriptionRef (sub : ChSubscription) : String := (adapter.asString sub.id).getD ""

/-- A subscription as an invoice. -/
def mapSubscriptionInvoice (sub : ChSubscription) (occurredAt : String) (failed : Bool)
    (amountInCents : MinorUnits) : Invoice :=
  let subId := adapter.subscriptionRef sub
  { id := invoiceIdOf subId
    subscriptionId := prefixed "ax10m_sub_" (some subId)
    customerId := (prefixed "ax10m_cus_" (adapter.asString sub.customerId)).getD ""
    merchantId := adapter.merchantId
    processorRef := subId
    amount := ⟨amountInCents, sub.currency.getD "USD"⟩
    status := if failed then .open else .paid
    firstFailedAt := if failed then some occurredAt else none
    createdAt := toIso (adapter.asString sub.createdAt) }

def buildDecline (rawReason : Option String) (txnId invoiceId chargeAttemptId occurredAt : String) :
    DeclineEvent where
  id := "ax10m_dec_" ++ txnId
  invoiceId := invoiceId
  chargeAttemptId := chargeAttemptId
  code := mapMaxioDeclineCode rawReason
  family := familyOf (mapMaxioDeclineCode rawReason)
  rawReason := rawReason
  occurredAt := occurredAt

/-- The id of a webhook's event. -/
def eventId (webhook : MaxioWebhook) : String :=
  let p := webhook.payload
  ((((webhook.webhookId.or (adapter.asString p.transaction.id)).or
    (adapter.asString p.subscription.id)).or (adapter.asString p.eventId)).or
    (adapter.asString p.refundId)).getD webhook.event

/-- The time of a webhook's event. -/
def occurredAt (webhook : MaxioWebhook) : String :=
  let p := webhook.payload
  toIso (adapter.asString ((p.transaction.createdAt.or p.subscription.updatedAt).or p.timestamp))

/-- The invoice of a charge of a subscription. -/
def chargedInvoice (webhook : MaxioWebhook) (failed : Bool) : Invoice :=
  adapter.mapSubscriptionInvoice webhook.payload.subscription (adapter.occurredAt webhook) failed
    (centsOf webhook.payload.transaction.amountInCents)

/-- The body of a failed charge. -/
def failureBody (webhook : MaxioWebhook) : EventBody :=
  let p := webhook.payload
  let invoice := adapter.chargedInvoice webhook true
  let rawReason := (adapter.asString p.transaction.memo).or (adapter.asString p.message)
  let txnId := adapter.asString p.transaction.id
  .invoiceFailed {
    invoice := some invoice
    decline := some (buildDecline rawReason (txnId.getD invoice.processorRef) invoice.id
      (attemptIdOf txnId) (adapter.occurredAt webhook))
    customer := some (customerFromInvoice invoice
      (contactOverrides p.subscription.email p.subscription.phone)) }

/-- The body of a refund of a subscription's payment. -/
def refundBody (p : MaxioPayload) : Option EventBody := do
  let subId ← truthy (adapter.asString p.subscriptionId)
  if centsOf p.amountInCents ≤ 0 then none
  else some (.paymentReversed ⟨invoiceIdOf subId, centsOf p.amountInCents,
    (adapter.asString p.currency).getD "USD", .refund, adapter.asString p.memo⟩)

/-- The body of a webhook's event, if it is acted on. -/
def body (webhook : MaxioWebhook) : Option EventBody :=
  match webhook.event with
  | "payment_failure" => some (adapter.failureBody webhook)
  | "payment_success" | "renewal_success" =>
    some (.invoicePaid (some (adapter.chargedInvoice webhook false)))
  | "refund_success" => adapter.refundBody webhook.payload
  | "subscription_state_change" | "subscription_canceled" =>
    (truthy (adapter.asString webhook.payload.subscription.id)).map fun _ => .subscriptionUpdated
  | _ => none

/-- The events of a webhook. -/
def mapWebhook (webhook : MaxioWebhook) : List CanonicalEvent :=
  ((adapter.body webhook).map fun body =>
    ⟨"ax10m_evt_" ++ adapter.eventId webhook, adapter.merchantId, adapter.eventId webhook,
      adapter.occurredAt webhook, body⟩).toList

/-- Verify and map a webhook; one that cannot be parsed has no events. -/
def ingestWebhook (raw : RawWebhook MaxioWebhook) : Ingested :=
  if !adapter.webhookSecret then
    .error ("MaxioAdapter.ingestWebhook: webhookSecret not configured — refusing unverified " ++
      "webhook")
  else if !raw.verified then
    .error ("MaxioAdapter.ingestWebhook: X-Chargify-Webhook-Signature-Hmac-Sha256 " ++
      "verification failed")
  else .ok ((raw.body.map adapter.mapWebhook).getD [])

end MaxioAdapter

end AX10M
