/-
  The Braintree adapter: signed XML notifications, and the canonical events it makes of them
  (`adapters/braintree`).
-/
import AX10M.Js.Number
import AX10M.Js.Fixed
import AX10M.Poal.Ingress
import AX10M.Poal.Xml
import Mathlib.Data.Rat.Floor

namespace AX10M

open Js

/-- The codes of processor response codes. -/
def braintreeDeclineMap : List (String × DeclineCode) :=
  [("2000", .doNotHonor), ("2001", .insufficientFunds), ("2002", .velocityLimitExceeded),
    ("2003", .velocityLimitExceeded), ("2004", .expiredCard), ("2005", .invalidCard),
    ("2006", .invalidCard), ("2007", .closedAccount), ("2008", .invalidCard),
    ("2009", .issuerUnavailable), ("2010", .fraudulent), ("2011", .authenticationRequired),
    ("2012", .lostCard), ("2013", .stolenCard), ("2014", .fraudulent),
    ("2015", .cardNotSupported), ("2019", .processingError), ("2024", .cardNotSupported),
    ("2038", .doNotHonor), ("2044", .doNotHonor), ("2046", .doNotHonor), ("2047", .pickupCard),
    ("2057", .cardNotSupported)]

/-- The code of a processor response code. -/
def mapBraintreeDeclineCode (raw : Option String) : DeclineCode :=
  match truthy raw with
  | none => .unknown
  | some raw => codeFrom braintreeDeclineMap (trim raw)

/-- The currencies whose minor unit is not a hundredth. -/
def currencyExponents : List (String × ℕ) :=
  [("JPY", 0), ("KRW", 0), ("VND", 0), ("CLP", 0), ("ISK", 0), ("XOF", 0), ("XAF", 0), ("XPF", 0),
    ("BIF", 0), ("DJF", 0), ("GNF", 0), ("KMF", 0), ("MGA", 0), ("PYG", 0), ("RWF", 0), ("UGX", 0),
    ("VUV", 0), ("BHD", 3), ("KWD", 3), ("OMR", 3), ("TND", 3), ("IQD", 3), ("JOD", 3), ("LYD", 3)]

def currencyExponent (currency : String) : ℕ :=
  (currencyExponents.lookup currency.toUpper).getD 2

/-- A decimal amount in minor units. -/
def decimalToMinor (v : Option String) (currency : String) : MinorUnits :=
  match (truthy v).bind parseFloat with
  | some n => Js.round (n * (10 ^ currencyExponent currency : ℕ))
  | none => 0

/-- An amount in minor units as a decimal. -/
def minorToDecimal (minor : MinorUnits) (currency : String) : String :=
  toFixed (currencyExponent currency) (minor / 10 ^ currencyExponent currency)

/-- The adapter of a merchant. -/
structure BraintreeAdapter where
  merchantId : String

namespace BraintreeAdapter

variable (adapter : BraintreeAdapter)

def buildInvoice (ref : String) (amount : Money) (occurredAt : String) (failed : Bool) :
    Invoice where
  id := invoiceIdOf ref
  subscriptionId := prefixed "ax10m_sub_" (some ref)
  customerId := ""
  merchantId := adapter.merchantId
  processorRef := ref
  amount := amount
  status := if failed then .open else .paid
  firstFailedAt := if failed then some occurredAt else none
  createdAt := occurredAt

def buildDecline (txn : List Char) (invoiceId chargeAttemptId occurredAt : String) :
    DeclineEvent where
  id := "ax10m_dec_" ++ (xmlLeaf txn "id").getD invoiceId
  invoiceId := invoiceId
  chargeAttemptId := chargeAttemptId
  code := mapBraintreeDeclineCode (xmlLeaf txn "processor-response-code")
  family := familyOf (mapBraintreeDeclineCode (xmlLeaf txn "processor-response-code"))
  rawReason := (xmlLeaf txn "processor-response-text").or (xmlLeaf txn "processor-response-code")
  occurredAt := occurredAt

/-- The subscription of a notification. -/
def subscription (xml : List Char) : List Char :=
  (xmlInner ((xmlInner xml "subject").getD []) "subscription").getD []

/-- The id of the subscription of a notification. -/
def subscriptionId (xml : List Char) : String := (xmlLeaf (subscription xml) "id").getD ""

/-- The phone number of a transaction's customer, with its country code if there is one. -/
def customerPhone (cust : List Char) : Option String :=
  let intl := (xmlInner cust "international-phone").getD []
  match truthy (xmlLeaf intl "country-code"), truthy (xmlLeaf intl "national-number") with
  | some cc, some nn => some ("+" ++ cc ++ nn)
  | _, _ => xmlLeaf cust "phone"

/-- The event of a charge of a subscription. -/
def mapCharge (kind : String) (failed : Bool) (xml : List Char) (occurredAt : String) :
    CanonicalEvent :=
  let sub := subscription xml
  let subId := subscriptionId xml
  let txn := (xmlInner sub "transaction").getD []
  let currency := (xmlLeaf txn "currency-iso-code").getD "USD"
  let amount := decimalToMinor (xmlLeaf txn "amount") currency
  let invoice := adapter.buildInvoice subId ⟨amount, currency⟩ occurredAt failed
  let cust := (xmlInner txn "customer").getD []
  { id := "ax10m_evt_" ++ subId ++ "_" ++ occurredAt
    merchantId := adapter.merchantId
    processorEventId := kind ++ ":" ++ subId ++ ":" ++ occurredAt
    occurredAt := occurredAt
    body :=
      if failed then .invoiceFailed {
        invoice := some invoice
        decline := some (buildDecline txn invoice.id (attemptIdOf (xmlLeaf txn "id")) occurredAt)
        customer := some (customerFromInvoice invoice
          (contactOverrides (xmlLeaf cust "email") (customerPhone cust))) }
      else .invoicePaid (some invoice) }

/-- The event of a dispute, if it is a chargeback of a charge of ours. -/
def mapDispute (kind : String) (xml : List Char) (occurredAt : String) : Option CanonicalEvent :=
  let dispute := (xmlInner ((xmlInner xml "subject").getD []) "dispute").getD []
  if ((xmlLeaf dispute "kind").getD "").toLower ≠ "chargeback" then none
  else do
    let orderId ← truthy (xmlLeaf ((xmlInner dispute "transaction").getD []) "order-id")
    let currency := (xmlLeaf dispute "currency-iso-code").getD "USD"
    let reversal : ReversalPayload := ⟨invoiceIdOf orderId,
      decimalToMinor (xmlLeaf dispute "amount") currency, currency, .chargeback,
      xmlLeaf dispute "reason"⟩
    let disputeId := (xmlLeaf dispute "id").getD orderId
    some {
      id := "ax10m_evt_" ++ disputeId ++ "_" ++ occurredAt
      merchantId := adapter.merchantId
      processorEventId := kind ++ ":" ++ disputeId ++ ":" ++ occurredAt
      occurredAt := occurredAt
      body := if kind = "dispute_won" then .paymentReversalReverted reversal
        else .paymentReversed reversal }

/-- The events of a notification. -/
def mapNotification (xml : List Char) : List CanonicalEvent :=
  let occurredAt := toIso (xmlLeaf xml "timestamp")
  match xmlLeaf xml "kind" with
  | some "subscription_charged_unsuccessfully" =>
    [adapter.mapCharge "subscription_charged_unsuccessfully" true xml occurredAt]
  | some "subscription_charged_successfully" =>
    [adapter.mapCharge "subscription_charged_successfully" false xml occurredAt]
  | some "dispute_opened" => (adapter.mapDispute "dispute_opened" xml occurredAt).toList
  | some "dispute_won" => (adapter.mapDispute "dispute_won" xml occurredAt).toList
  | _ => []

/-- Verify and map a webhook: the XML of its payload. -/
def ingestWebhook (verified : Bool) (xml : String) : Ingested :=
  if !verified then .error "BraintreeAdapter.ingestWebhook: bt_signature verification failed"
  else .ok (adapter.mapNotification xml.toList)

end BraintreeAdapter

end AX10M
