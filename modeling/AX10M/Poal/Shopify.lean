/-
  The Shopify adapter: webhooks of billing attempts and orders (`adapters/shopify`).

  The look-up of a contract's contact is given with the webhook: it can only add contact fields.
-/
import AX10M.Js.Number
import AX10M.Poal.Ingress
import Mathlib.Data.Rat.Floor

namespace AX10M

open Js

/-- The payload of a webhook: a billing attempt, or an order. -/
structure ShopifyWebhookPayload where
  id : Option TextOrNumber := none
  adminGraphqlApiId : Option String := none
  subscriptionContractId : Option TextOrNumber := none
  amount : Option String := none
  currency : Option String := none
  errorCode : Option String := none
  errorMessage : Option String := none
  totalPrice : Option String := none
  customerId : Option TextOrNumber := none
  createdAt : Option String := none

/-- The codes of billing attempt errors. -/
def shopifyDeclineMap : List (String × DeclineCode) :=
  [("payment_method_declined", .doNotHonor), ("card_declined", .doNotHonor),
    ("insufficient_funds", .insufficientFunds), ("expired_payment_method", .expiredCard),
    ("invalid_payment_method", .invalidCard), ("payment_method_not_found", .invalidCard),
    ("authentication_error", .authenticationRequired)]

/-- The code of a billing attempt error. -/
def mapShopifyDeclineCode (raw : Option String) : DeclineCode :=
  match truthy raw with
  | none => .unknown
  | some raw => codeFrom shopifyDeclineMap (trim raw).toLower

/-- A decimal amount in hundredths. -/
def toMinorUnits (major : Option String) : MinorUnits :=
  match (truthy major).bind numberOf with
  | some n => Js.round (n * 100)
  | none => 0

/-- The adapter of a merchant; `apiSecret` says whether it has a secret, `numberText` is the text
    of a number (`String`), and `contractContact` the contact of a contract, `none` if the look-up
    fails or finds none. -/
structure ShopifyAdapter where
  merchantId : String
  apiSecret : Bool := true
  numberText : ℚ → String
  contractContact : String → Option ContactOverrides

namespace ShopifyAdapter

variable (adapter : ShopifyAdapter) (payload : ShopifyWebhookPayload)

/-- The text of an id, empty if there is none. -/
def idText (id : Option TextOrNumber) : String :=
  (id.map (TextOrNumber.toText adapter.numberText)).getD ""

/-- An id with its prefix, if there is one. -/
def idWith (pre : String) (id : Option TextOrNumber) : Option String :=
  (TextOrNumber.truthy id).map fun id => pre ++ id.toText adapter.numberText

/-- The id of a webhook's event. -/
def eventId : String := payload.adminGraphqlApiId.getD (adapter.idText payload.id)

def mapWebhookInvoice (occurredAt : String) (failed : Bool) : Invoice where
  id := invoiceIdOf (adapter.idText payload.id)
  subscriptionId := adapter.idWith "ax10m_sub_" payload.subscriptionContractId
  customerId := (adapter.idWith "ax10m_cus_" payload.customerId).getD ""
  merchantId := adapter.merchantId
  processorRef := (adapter.idWith "gid://shopify/SubscriptionContract/"
    payload.subscriptionContractId).getD (adapter.eventId payload)
  amount := ⟨toMinorUnits (payload.amount.or payload.totalPrice), payload.currency.getD "USD"⟩
  status := if failed then .open else .paid
  firstFailedAt := if failed then some occurredAt else none
  createdAt := payload.createdAt.getD occurredAt

def buildDecline (invoiceId chargeAttemptId occurredAt : String) : DeclineEvent where
  id := "ax10m_dec_" ++ (payload.id.map (TextOrNumber.toText adapter.numberText)).getD invoiceId
  invoiceId := invoiceId
  chargeAttemptId := chargeAttemptId
  code := mapShopifyDeclineCode payload.errorCode
  family := familyOf (mapShopifyDeclineCode payload.errorCode)
  rawReason := payload.errorMessage.or payload.errorCode
  occurredAt := occurredAt

/-- The contact of a contract, looked up only for a contract. -/
def fetchContractContact (contractGid : String) : Option ContactOverrides :=
  if startsWith contractGid "gid://" then adapter.contractContact contractGid else none

/-- The body of a webhook's event, if its topic is acted on. -/
def body (topic occurredAt : String) : Option EventBody :=
  match topic with
  | "subscription_billing_attempts/failure" =>
    let invoice := adapter.mapWebhookInvoice payload occurredAt true
    let contact := (adapter.fetchContractContact invoice.processorRef).getD {}
    some (.invoiceFailed {
      invoice := some invoice
      decline := some (adapter.buildDecline payload invoice.id
        (attemptIdOf (some (adapter.eventId payload))) occurredAt)
      customer := some (customerFromInvoice invoice
        (contactOverrides contact.email contact.phone)) })
  | "subscription_billing_attempts/success" | "orders/paid" =>
    some (.invoicePaid (some (adapter.mapWebhookInvoice payload occurredAt false)))
  | _ => none

/-- Verify and map a webhook with its topic. -/
def ingestWebhook (topic : Option String) (raw : RawWebhook ShopifyWebhookPayload) : Ingested :=
  if !adapter.apiSecret then
    .error ("ShopifyAdapter.ingestWebhook: apiSecret not configured — refusing unverified webhook")
  else if !raw.verified then
    .error "ShopifyAdapter.ingestWebhook: X-Shopify-Hmac-Sha256 verification failed"
  else
    match raw.body with
    | none => .error "ShopifyAdapter.ingestWebhook: body is not valid JSON"
    | some payload =>
      let occurredAt := payload.createdAt.getD epochIso
      .ok ((adapter.body payload (topic.getD "") occurredAt).map fun body =>
        ⟨"ax10m_evt_" ++ adapter.eventId payload, adapter.merchantId, adapter.eventId payload,
          occurredAt, body⟩).toList

end ShopifyAdapter

end AX10M
