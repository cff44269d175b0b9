/-
  One chargeback, told by two notifications.

  Adyen's notice and debit, and Checkout's payment and dispute webhooks, are each mapped to a
  reversal of the disputed amount, and only the cap of the service limits the second one
  (`standing_twice`).  So the amount is taken once exactly if it is all of what is recovered,
  or nothing.
-/
import AX10M.Poal.Adyen
import AX10M.Poal.Checkout
import AX10M.Recovery.Ingest
import AX10M.Recovery.Redelivery
import Mathlib.Data.List.Perm.Basic

namespace AX10M

open Js Effects

/-! ## Where an invoice stands -/

/-- The totals of an invoice: recovered, reversed and reinstated. -/
structure Standing (ledger : List LedgerEntry) (i : String) (R V W : ℚ) : Prop where
  recovered : amountOf ledger .caseRecovered i = R
  reversed : amountOf ledger .caseReversed i = V
  reverted : amountOf ledger .caseReversalReverted i = W

theorem Standing.heldNet {l : List LedgerEntry} {i : String} {R V W : ℚ}
    (h : Standing l i R V W) : heldNet l i = R - V + W := by
  rw [AX10M.heldNet, h.recovered, h.reversed, h.reverted]

/-- The event is a reversal of the amount of the invoice. -/
def Reverses (i : String) (a : ℚ) (e : CanonicalEvent) : Prop :=
  ∃ p, e.body = .paymentReversed p ∧ p.invoiceId = i ∧ p.amount = a

/-- The event is a reinstatement of the amount of the invoice. -/
def Reinstates (i : String) (a : ℚ) (e : CanonicalEvent) : Prop :=
  ∃ p, e.body = .paymentReversalReverted p ∧ p.invoiceId = i ∧ p.amount = a

section

variable {σ : Type} (s : RecoveryCaseService) (env : Env σ) (pid : Option String) {w : World σ}
  {i : String} {e e' e'' : CanonicalEvent} {R V W a : ℚ}

theorem Standing.reversal (h : Standing w.ledger i R V W) (he : Reverses i a e) :
    Standing (serve s env w (.webhook e pid)).ledger i R
      (V + if 0 < R - V then min a (R - V) else 0) W := by
  obtain ⟨p, hb, rfl, rfl⟩ := he
  have hnet : netRecovered w.ledger p.invoiceId = R - V := by
    rw [netRecovered_eq, h.recovered, h.reversed]
  constructor
  · simp [serve_reversal s env w pid hb, h.recovered]
  · simp [serve_reversal s env w pid hb, h.reversed, hnet]
  · simp [serve_reversal s env w pid hb, h.reverted]

theorem Standing.reinstatement (h : Standing w.ledger i R V W) (he : Reinstates i a e) :
    Standing (serve s env w (.webhook e pid)).ledger i R V
      (W + if 0 < V - W then min a (V - W) else 0) := by
  obtain ⟨p, hb, rfl, rfl⟩ := he
  have hnet : netReversed w.ledger p.invoiceId = V - W := by
    rw [netReversed_eq, h.reversed, h.reverted]
  constructor
  · simp [serve_reinstatement s env w pid hb, h.recovered]
  · simp [serve_reinstatement s env w pid hb, h.reversed]
  · simp [serve_reinstatement s env w pid hb, h.reverted, hnet]

/-- Two reversals of one amount take it twice, as far as something is left. -/
theorem standing_twice (h : Standing w.ledger i R 0 0) (h0 : 0 ≤ a) (ha : a ≤ R)
    (he : Reverses i a e) (he' : Reverses i a e') :
    Standing (serveAll s env w [.webhook e pid, .webhook e' pid]).ledger i R
      (a + min a (R - a)) 0 := by
  have h1 : Standing (serve s env w (.webhook e pid)).ledger i R a 0 := by
    have := h.reversal s env pid he
    rw [sub_zero, zero_add, min_eq_left ha] at this
    split_ifs at this with hR
    · exact this
    · obtain rfl : a = 0 := by linarith
      exact this
  have h2 := h1.reversal s env pid he'
  split_ifs at h2 with hR
  · exact h2
  · rwa [show min a (R - a) = 0 by rw [min_eq_right] <;> linarith]

/-- The amount is given back once. -/
theorem standing_won (h : Standing w.ledger i R 0 0) (h0 : 0 ≤ a) (ha : a ≤ R)
    (he : Reverses i a e) (he' : Reverses i a e') (he'' : Reinstates i a e'') :
    Standing (serveAll s env w [.webhook e pid, .webhook e' pid, .webhook e'' pid]).ledger i R
      (a + min a (R - a)) a := by
  have hmin : 0 ≤ min a (R - a) := le_min h0 (by linarith)
  have h3 := (standing_twice s env pid h h0 ha he he').reinstatement s env pid he''
  rw [sub_zero, zero_add] at h3
  split_ifs at h3 with hV
  · have hall : min a (a + min a (R - a)) = a := min_eq_left (by linarith)
    rw [hall] at h3
    exact h3
  · obtain rfl : a = 0 := by linarith
    exact h3

end

/-- One chargeback of the amount nets once: the invoice is left with the rest, and with all of it
    when the chargeback is won. -/
def NetsOnce (after won : List LedgerEntry) (i : String) (R a : ℚ) : Prop :=
  heldNet after i = R - a ∧ heldNet won i = R

/-- What is taken twice nets once exactly if it is nothing, or everything. -/
theorem netsOnce_iff {after won : List LedgerEntry} {i : String} {R a : ℚ} (h0 : 0 ≤ a)
    (ha : a ≤ R) (h : Standing after i R (a + min a (R - a)) 0)
    (hw : Standing won i R (a + min a (R - a)) a) :
    NetsOnce after won i R a ↔ a = 0 ∨ a = R := by
  have hiff : min a (R - a) = 0 ↔ a = 0 ∨ a = R := by
    constructor
    · intro h'
      rcases min_choice a (R - a) with hm | hm
      · exact .inl (by linarith)
      · exact .inr (by linarith)
    · rintro (rfl | rfl)
      · exact min_eq_left (by linarith)
      · rw [sub_self]
        exact min_eq_right h0
  rw [NetsOnce, h.heldNet, hw.heldNet, ← hiff]
  constructor
  · rintro ⟨h1, -⟩
    linarith
  · intro h1
    rw [h1]
    constructor <;> ring

/-! ## Adyen -/

namespace AdyenAdapter

variable {adapter : AdyenAdapter} {item : AdyenNotificationItem}

/-- A chargeback that moved funds is mapped to a reversal. -/
theorem mapItem_chargeback (adapter : AdyenAdapter) {code : String}
    (hc : item.eventCode = some code) (hcode : code ∈ adyenChargebackEventCodes)
    (hs : item.success = some "true") :
    ∃ e, adapter.mapItem item = some e ∧ Reverses (invoiceIdOf item.ref) item.value e := by
  refine ⟨adapter.event item item.ref (.paymentReversed ⟨invoiceIdOf item.ref, item.value,
    item.currency, if code = "REFUND" then .refund else .chargeback, item.reason⟩), ?_, _, rfl,
    rfl, rfl⟩
  simp only [mapItem, hc, Option.getD_some, hcode, or_true, if_true, mapReversal, hs, ne_eq,
    not_true_eq_false, if_false]

/-- A reversed chargeback is mapped to a reinstatement. -/
theorem mapItem_reversed (adapter : AdyenAdapter)
    (hc : item.eventCode = some "CHARGEBACK_REVERSED")
    (hs : item.success = some "true") :
    ∃ e, adapter.mapItem item = some e ∧ Reinstates (invoiceIdOf item.ref) item.value e := by
  refine ⟨adapter.event item item.ref (.paymentReversalReverted ⟨invoiceIdOf item.ref, item.value,
    item.currency, .chargeback, some (item.reason.getD "chargeback_reversed")⟩), ?_, _, rfl, rfl,
    rfl⟩
  rw [mapItem, hc, Option.getD_some, if_neg (by decide), if_pos rfl, mapReversalReverted,
    if_neg (not_not.2 hs)]

/-- A notice that moved no funds is mapped to nothing. -/
theorem mapItem_unmoved {code : String} (hc : item.eventCode = some code)
    (hcode : code ∈ adyenChargebackEventCodes) (hs : item.success ≠ some "true") :
    adapter.mapItem item = none := by
  simp [mapItem, hc, hcode, mapReversal, hs]

variable {verify : AdyenNotificationItem → Bool}

theorem ingestItems_ok {items : List AdyenNotificationItem} (h : ∀ item ∈ items, verify item) :
    adapter.ingestItems verify (items.map some) = .ok (items.filterMap adapter.mapItem) := by
  induction items with
  | nil => rfl
  | cons item items ih =>
    have ih := ih fun x hx => h x (List.mem_cons_of_mem _ hx)
    simp only [List.map_cons, ingestItems, h item List.mem_cons_self, Bool.not_true,
      Bool.false_eq_true, if_false, ih, List.filterMap_cons]
    cases adapter.mapItem item <;> rfl

/-- Webhooks of the adapter, each with its notification items. -/
def deliver (adapter : AdyenAdapter) (webhooks : List (List AdyenNotificationItem)) :
    List Ingested :=
  webhooks.map fun items => adapter.ingestWebhook (some (some (items.map some)))

section

variable {σ : Type} {s : RecoveryCaseService} {env : Env σ}

/-- The effect of webhooks is that of their items in turn, however they are batched. -/
theorem ingestAll_deliver (hv : adapter.verifyHmac = some verify)
    {webhooks : List (List AdyenNotificationItem)} (h : ∀ item ∈ webhooks.flatten, verify item)
    (hrev : ∀ item ∈ webhooks.flatten, ∀ e ∈ adapter.mapItem item, e.body.move.isSome)
    (w : World σ) :
    ingestAll s env "adyen" w (adapter.deliver webhooks) =
      serveAll s env w ((webhooks.flatten.filterMap adapter.mapItem).map fun e =>
        .webhook e (some "adyen")) := by
  induction webhooks generalizing w with
  | nil => rfl
  | cons items webhooks ih =>
    rw [List.flatten_cons] at h hrev ⊢
    have ih := fun w => ih (fun x hx => h x (List.mem_append_right _ hx))
      (fun x hx => hrev x (List.mem_append_right _ hx)) w
    have hitems : adapter.ingestWebhook (some (some (items.map some))) =
        .ok (items.filterMap adapter.mapItem) := by
      simp only [ingestWebhook, hv, Option.getD_some]
      exact ingestItems_ok fun x hx => h x (List.mem_append_left _ hx)
    rw [List.filterMap_append, List.map_append, serveAll_append, ← ih, deliver, List.map_cons,
      hitems]
    refine congrArg (fun w => ingestAll s env "adyen" w (adapter.deliver webhooks))
      (ingest_moves s env "adyen" ?_ w)
    intro e he
    obtain ⟨item, hitem, hmap⟩ := List.mem_filterMap.1 he
    exact hrev item (List.mem_append_left _ hitem) e hmap

end

end AdyenAdapter

/-- An item with the code, about funds that were moved. -/
structure MovedItem (code ref : String) (a : ℚ) (item : AdyenNotificationItem) : Prop where
  code : item.eventCode = some code
  moved : item.success = some "true"
  ref : item.ref = ref
  value : item.value = a

/-! ## Checkout -/

namespace CheckoutAdapter

/-- Webhooks of the adapter, each with a valid signature. -/
def deliver (adapter : CheckoutAdapter) (envelopes : List CkoWebhookEnvelope) : List Ingested :=
  envelopes.map fun envelope => adapter.ingestWebhook ⟨true, some envelope⟩

variable {adapter : CheckoutAdapter} {envelope : CkoWebhookEnvelope}

theorem ingestWebhook_verified (h : adapter.webhookSecret) :
    adapter.ingestWebhook ⟨true, some envelope⟩ = .ok (adapter.mapEnvelope envelope) := by
  simp [ingestWebhook, h]

end CheckoutAdapter

/-- An envelope of the type, whose data gives the reference (as a payment or as a dispute) and the
    amount. -/
structure CkoTold (type : String) (refOf : CkoData → String) (ref : String) (a : ℚ)
    (envelope : CkoWebhookEnvelope) : Prop where
  type : envelope.type = some type
  ref : refOf (envelope.data.getD {}) = ref
  value : (envelope.data.getD {}).value = a

namespace CheckoutAdapter

variable {adapter : CheckoutAdapter} {envelope : CkoWebhookEnvelope} {ref : String} {a : ℚ}

/-- The envelope is mapped to one event of this kind, if its reference and amount can be joined to a
    recovery, and else to none. -/
def MapsTo (adapter : CheckoutAdapter) (envelope : CkoWebhookEnvelope) (ref : String) (a : ℚ)
    (P : CanonicalEvent → Prop) : Prop :=
  if ref = "" ∨ a ≤ 0 then adapter.mapEnvelope envelope = []
  else ∃ e, adapter.mapEnvelope envelope = [e] ∧ P e

theorem mapsTo_of_bodies {make : ReversalPayload → EventBody} {P : CanonicalEvent → Prop}
    (hP : ∀ e p, e.body = make p → p.invoiceId = invoiceIdOf ref → p.amount = a → P e)
    (hvalue : (envelope.data.getD {}).value = a)
    (hb : ∃ kind reason, adapter.bodies (envelope.data.getD {}) envelope.type
      (toIso envelope.createdOn) = reversalBody (envelope.data.getD {}) make ref kind reason) :
    adapter.MapsTo envelope ref a P := by
  subst hvalue
  obtain ⟨kind, reason, hb⟩ := hb
  unfold MapsTo
  split_ifs with h
  · rw [mapEnvelope, hb, reversalBody, if_pos h, List.map_nil]
  · refine ⟨_, ?_, hP ⟨"ax10m_evt_" ++ envelope.id.getD "", adapter.merchantId,
      envelope.id.getD "", toIso envelope.createdOn, make ⟨invoiceIdOf ref,
        (envelope.data.getD {}).value, (envelope.data.getD {}).money.currency, kind, reason⟩⟩
      _ rfl rfl rfl⟩
    rw [mapEnvelope, hb, reversalBody, if_neg h, List.map_singleton]

/-- Both notifications of a chargeback are mapped to a reversal. -/
theorem mapsTo_chargeback (adapter : CheckoutAdapter)
    (h : CkoTold "payment_chargeback" CkoData.paymentRef ref a envelope ∨
      CkoTold "dispute_received" CkoData.disputeRef ref a envelope) :
    adapter.MapsTo envelope ref a (Reverses (invoiceIdOf ref) a) := by
  rcases h with ⟨ht, rfl, hv⟩ | ⟨ht, rfl, hv⟩
  · exact mapsTo_of_bodies (fun e p hb hi ha => ⟨p, hb, hi, ha⟩) hv ⟨_, _, by rw [ht]; rfl⟩
  · exact mapsTo_of_bodies (fun e p hb hi ha => ⟨p, hb, hi, ha⟩) hv ⟨_, _, by rw [ht]; rfl⟩

/-- A dispute that ends in our favour is mapped to a reinstatement. -/
theorem mapsTo_won (adapter : CheckoutAdapter)
    (h : CkoTold "dispute_won" CkoData.disputeRef ref a envelope ∨
      CkoTold "dispute_canceled" CkoData.disputeRef ref a envelope) :
    adapter.MapsTo envelope ref a (Reinstates (invoiceIdOf ref) a) := by
  rcases h with ⟨ht, rfl, hv⟩ | ⟨ht, rfl, hv⟩
  · exact mapsTo_of_bodies (fun e p hb hi ha => ⟨p, hb, hi, ha⟩) hv ⟨_, _, by rw [ht]; rfl⟩
  · exact mapsTo_of_bodies (fun e p hb hi ha => ⟨p, hb, hi, ha⟩) hv ⟨_, _, by rw [ht]; rfl⟩

/-- The effect of webhooks is that of their events in turn. -/
theorem ingestAll_deliver {σ : Type} {s : RecoveryCaseService} {env : Env σ}
    (hs : adapter.webhookSecret) {envelopes : List CkoWebhookEnvelope}
    (hrev : ∀ envelope ∈ envelopes, ∀ e ∈ adapter.mapEnvelope envelope, e.body.move.isSome)
    (w : World σ) :
    ingestAll s env "checkout" w (adapter.deliver envelopes) =
      serveAll s env w ((envelopes.flatMap adapter.mapEnvelope).map fun e =>
        .webhook e (some "checkout")) := by
  induction envelopes generalizing w with
  | nil => rfl
  | cons envelope envelopes ih =>
    have ih := fun w => ih (fun x hx => hrev x (List.mem_cons_of_mem _ hx)) w
    rw [List.flatMap_cons, List.map_append, serveAll_append, ← ih, deliver, List.map_cons,
      ingestWebhook_verified hs]
    exact congrArg (fun w => ingestAll s env "checkout" w (adapter.deliver envelopes))
      (ingest_moves s env "checkout" (hrev envelope List.mem_cons_self) w)

end CheckoutAdapter

/-! ## One chargeback nets once -/

theorem Reverses.moves {i : String} {a : ℚ} {e : CanonicalEvent} (h : Reverses i a e) :
    e.body.move.isSome := by
  obtain ⟨p, hb, -⟩ := h
  rw [hb]
  rfl

theorem Reinstates.moves {i : String} {a : ℚ} {e : CanonicalEvent} (h : Reinstates i a e) :
    e.body.move.isSome := by
  obtain ⟨p, hb, -⟩ := h
  rw [hb]
  rfl

section

variable {σ : Type} (s : RecoveryCaseService) (env : Env σ) (w : World σ) {ref : String} {R a : ℚ}

/-- Two reversals of the amount, in either order, and then its reinstatement. -/
theorem netsOnce_served {i : String} (hw : Standing w.ledger i R 0 0) (h0 : 0 ≤ a) (ha : a ≤ R)
    {e e' e'' : CanonicalEvent} (he : Reverses i a e) (he' : Reverses i a e')
    (he'' : Reinstates i a e'') (pid : Option String) {first : List Request}
    (hord : first = [.webhook e pid, .webhook e' pid] ∨
      first = [.webhook e' pid, .webhook e pid]) :
    NetsOnce (serveAll s env w first).ledger
      (serveAll s env w (first ++ [.webhook e'' pid])).ledger i R a ↔ a = 0 ∨ a = R := by
  rcases hord with rfl | rfl
  · exact netsOnce_iff h0 ha (standing_twice s env pid hw h0 ha he he')
      (standing_won s env pid hw h0 ha he he' he'')
  · exact netsOnce_iff h0 ha (standing_twice s env pid hw h0 ha he' he)
      (standing_won s env pid hw h0 ha he' he he'')

/-- The notice and the debit of a chargeback at Adyen, in either order and however batched, net
    once exactly if nothing is disputed, or everything. -/
theorem adyen_netsOnce_iff (hw : Standing w.ledger (invoiceIdOf ref) R 0 0) (h0 : 0 ≤ a)
    (ha : a ≤ R) {adapter : AdyenAdapter} {verify : AdyenNotificationItem → Bool}
    (hv : adapter.verifyHmac = some verify) {notice debit won : AdyenNotificationItem}
    (hn : MovedItem "NOTIFICATION_OF_CHARGEBACK" ref a notice)
    (hd : MovedItem "CHARGEBACK" ref a debit) (hr : MovedItem "CHARGEBACK_REVERSED" ref a won)
    (hver : ∀ item ∈ [notice, debit, won], verify item)
    {webhooks : List (List AdyenNotificationItem)}
    (hord : webhooks.flatten = [notice, debit] ∨ webhooks.flatten = [debit, notice]) :
    NetsOnce (ingestAll s env "adyen" w (adapter.deliver webhooks)).ledger
      (ingestAll s env "adyen" w (adapter.deliver (webhooks ++ [[won]]))).ledger
      (invoiceIdOf ref) R a ↔ a = 0 ∨ a = R := by
  obtain ⟨e, hme, he⟩ := AdyenAdapter.mapItem_chargeback adapter hn.code (by decide)
    hn.moved
  obtain ⟨e', hme', he'⟩ := AdyenAdapter.mapItem_chargeback adapter hd.code (by decide)
    hd.moved
  obtain ⟨e'', hme'', he''⟩ := AdyenAdapter.mapItem_reversed adapter hr.code hr.moved
  rw [hn.ref, hn.value] at he
  rw [hd.ref, hd.value] at he'
  rw [hr.ref, hr.value] at he''
  have hall : ∀ item ∈ (webhooks ++ [[won]]).flatten, verify item ∧ ∀ e ∈ adapter.mapItem item,
      e.body.move.isSome := by
    intro item hi
    have hi : item ∈ [notice, debit, won] := by
      rw [List.flatten_append, List.flatten_singleton] at hi
      rcases hord with h | h <;> rw [h] at hi <;> simp at hi ⊢ <;> tauto
    refine ⟨hver item hi, fun x hx => ?_⟩
    simp only [List.mem_cons, List.not_mem_nil, or_false] at hi
    rcases hi with rfl | rfl | rfl
    · rw [hme] at hx
      exact Option.some.inj hx ▸ he.moves
    · rw [hme'] at hx
      exact Option.some.inj hx ▸ he'.moves
    · rw [hme''] at hx
      exact Option.some.inj hx ▸ he''.moves
  have hmem : ∀ item ∈ webhooks.flatten, item ∈ (webhooks ++ [[won]]).flatten := fun item hi => by
    rw [List.flatten_append]
    exact List.mem_append_left _ hi
  rw [AdyenAdapter.ingestAll_deliver hv (fun item hi => (hall item (hmem item hi)).1)
      (fun item hi => (hall item (hmem item hi)).2),
    AdyenAdapter.ingestAll_deliver hv (fun item hi => (hall item hi).1)
      (fun item hi => (hall item hi).2), List.flatten_append, List.filterMap_append,
    List.map_append]
  have hlast : ([[won]].flatten.filterMap adapter.mapItem).map
      (fun e => Request.webhook e (some "adyen")) = [.webhook e'' (some "adyen")] := by
    simp [hme'']
  rw [hlast]
  refine netsOnce_served s env w hw h0 ha he he' he'' (some "adyen") ?_
  rcases hord with h | h
  · exact .inl (by simp [h, hme, hme'])
  · exact .inr (by simp [h, hme, hme'])

/-- Both notifications of a chargeback at Checkout, in either order, net once exactly if nothing is
    disputed, or everything of a payment that can be found. -/
theorem checkout_netsOnce_iff (hw : Standing w.ledger (invoiceIdOf ref) R 0 0) (h0 : 0 ≤ a)
    (ha : a ≤ R) {adapter : CheckoutAdapter} (hs : adapter.webhookSecret)
    {payment dispute won : CkoWebhookEnvelope}
    (hp : CkoTold "payment_chargeback" CkoData.paymentRef ref a payment)
    (hd : CkoTold "dispute_received" CkoData.disputeRef ref a dispute)
    (hr : CkoTold "dispute_won" CkoData.disputeRef ref a won ∨
      CkoTold "dispute_canceled" CkoData.disputeRef ref a won)
    {envelopes : List CkoWebhookEnvelope}
    (hord : envelopes = [payment, dispute] ∨ envelopes = [dispute, payment]) :
    NetsOnce (ingestAll s env "checkout" w (adapter.deliver envelopes)).ledger
      (ingestAll s env "checkout" w (adapter.deliver (envelopes ++ [won]))).ledger
      (invoiceIdOf ref) R a ↔ a = 0 ∨ a = R ∧ ref ≠ "" := by
  have hmp := CheckoutAdapter.mapsTo_chargeback adapter (.inl hp)
  have hmd := CheckoutAdapter.mapsTo_chargeback adapter (.inr hd)
  have hmr := CheckoutAdapter.mapsTo_won adapter hr
  have hmem : ∀ envelope ∈ envelopes ++ [won], envelope = payment ∨ envelope = dispute ∨
      envelope = won := by
    rcases hord with rfl | rfl <;> simp
  by_cases hj : ref = "" ∨ a ≤ 0
  · -- nothing is mapped, so the invoice stands as before
    simp only [CheckoutAdapter.MapsTo, if_pos hj] at hmp hmd hmr
    have hnone : ∀ envelope ∈ envelopes ++ [won], adapter.mapEnvelope envelope = [] := by
      intro envelope h
      rcases hmem envelope h with rfl | rfl | rfl
      · exact hmp
      · exact hmd
      · exact hmr
    have hsame : ∀ l, (∀ x ∈ l, adapter.mapEnvelope x = []) →
        ingestAll s env "checkout" w (adapter.deliver l) = w := by
      intro l hl
      rw [CheckoutAdapter.ingestAll_deliver hs (fun x hx => by rw [hl x hx]; simp),
        List.flatMap_eq_nil_iff.2 hl]
      rfl
    rw [hsame _ (fun x hx => hnone x (List.mem_append_left _ hx)), hsame _ hnone, NetsOnce,
      hw.heldNet]
    constructor
    · rintro ⟨h, -⟩
      exact .inl (by linarith)
    · rintro (rfl | ⟨rfl, href⟩)
      · constructor <;> ring
      · rcases hj with hj | hj
        · exact absurd hj href
        · constructor <;> linarith
  · simp only [CheckoutAdapter.MapsTo, if_neg hj] at hmp hmd hmr
    obtain ⟨e, hme, he⟩ := hmp
    obtain ⟨e', hme', he'⟩ := hmd
    obtain ⟨e'', hme'', he''⟩ := hmr
    have hrev : ∀ envelope ∈ envelopes ++ [won], ∀ e ∈ adapter.mapEnvelope envelope,
        e.body.move.isSome := by
      intro envelope h x hx
      rcases hmem envelope h with rfl | rfl | rfl
      · rw [hme, List.mem_singleton] at hx
        exact hx ▸ he.moves
      · rw [hme', List.mem_singleton] at hx
        exact hx ▸ he'.moves
      · rw [hme'', List.mem_singleton] at hx
        exact hx ▸ he''.moves
    have href : (a = 0 ∨ a = R ∧ ref ≠ "") ↔ a = 0 ∨ a = R := by
      have : ref ≠ "" := fun h => hj (.inl h)
      tauto
    rw [href, CheckoutAdapter.ingestAll_deliver hs
        (fun x hx => hrev x (List.mem_append_left _ hx)),
      CheckoutAdapter.ingestAll_deliver hs hrev, List.flatMap_append, List.map_append]
    have hlast : ([won].flatMap adapter.mapEnvelope).map
        (fun e => Request.webhook e (some "checkout")) = [.webhook e'' (some "checkout")] := by
      simp [hme'']
    rw [hlast]
    refine netsOnce_served s env w hw h0 ha he he' he'' (some "checkout") ?_
    rcases hord with h | h
    · exact .inl (by simp [h, hme, hme'])
    · exact .inr (by simp [h, hme, hme'])

/-- The notice of a chargeback leaves every invoice as it is exactly if it says that no funds were
    moved, is about nothing, or finds nothing left to reverse. -/
theorem notice_unmoved_iff {adapter : AdyenAdapter} {verify : AdyenNotificationItem → Bool}
    (hv : adapter.verifyHmac = some verify) {notice : AdyenNotificationItem}
    (hc : notice.eventCode = some "NOTIFICATION_OF_CHARGEBACK") (hver : verify notice) :
    (∀ i, heldNet (ingestAll s env "adyen" w (adapter.deliver [[notice]])).ledger i =
      heldNet w.ledger i) ↔
    notice.success ≠ some "true" ∨ notice.value = 0 ∨
      amountOf w.ledger .caseRecovered (invoiceIdOf notice.ref) ≤
        amountOf w.ledger .caseReversed (invoiceIdOf notice.ref) := by
  have hcode : "NOTIFICATION_OF_CHARGEBACK" ∈ adyenChargebackEventCodes := by decide
  have hdeliver : ∀ events : List CanonicalEvent, (adapter.mapItem notice).toList = events →
      (∀ e ∈ events, e.body.move.isSome) →
      ingestAll s env "adyen" w (adapter.deliver [[notice]]) =
        serveAll s env w (events.map fun e => .webhook e (some "adyen")) := by
    rintro _ rfl hrev
    rw [AdyenAdapter.ingestAll_deliver hv (fun x hx => by simp_all)
      (fun x hx e he => hrev e (by simp_all))]
    cases h : adapter.mapItem notice <;> simp [h]
  by_cases hs : notice.success = some "true"
  · obtain ⟨e, hme, he⟩ := AdyenAdapter.mapItem_chargeback adapter hc hcode hs
    have hrev : Request.isReversal (.webhook e (some "adyen")) := by
      obtain ⟨p, hb, -⟩ := he
      simp [Request.isReversal, hb]
    have hspent : Spent w.ledger (.webhook e (some "adyen")) ↔ notice.value = 0 ∨
        amountOf w.ledger .caseRecovered (invoiceIdOf notice.ref) ≤
          amountOf w.ledger .caseReversed (invoiceIdOf notice.ref) := by
      obtain ⟨p, hb, hi, ha⟩ := he
      simp only [Spent, hb, hi, ha]
    have hne : ¬ notice.success ≠ some "true" := not_not.2 hs
    rw [hdeliver [e] (by rw [hme]; rfl) (by simpa using he.moves),
      or_iff_right hne, ← hspent]
    constructor
    · intro h
      by_contra hsp
      obtain ⟨i, hi⟩ := heldNet_ne_of_not_spent s env w hrev hsp
      exact hi (h i)
    · intro hsp i
      exact ((sameBooks_of_spent s env w hrev hsp).heldNet i).symm
  · rw [hdeliver [] (by rw [AdyenAdapter.mapItem_unmoved hc hcode hs]; rfl) (by simp)]
    exact iff_of_true (fun i => rfl) (.inl hs)

/-- One chargeback, told by the notice and the debit of Adyen or by the payment and the dispute
    webhook of Checkout, nets once exactly if nothing is disputed, or everything that is recovered
    (of a payment that Checkout lets us find); and the notice of Adyen, which moves no funds by
    itself, leaves every invoice as it is exactly if it says that none were moved, is about
    nothing, or finds nothing left to reverse. -/
theorem chargeback_nets_once_iff (s : RecoveryCaseService) (env : Env σ) (w : World σ)
    {ref : String} {R a : ℚ} (hw : Standing w.ledger (invoiceIdOf ref) R 0 0) (h0 : 0 ≤ a)
    (ha : a ≤ R) {adyen : AdyenAdapter} {verify : AdyenNotificationItem → Bool}
    (hv : adyen.verifyHmac = some verify) {checkout : CheckoutAdapter}
    (hs : checkout.webhookSecret) :
    (∀ notice debit won webhooks, MovedItem "NOTIFICATION_OF_CHARGEBACK" ref a notice →
      MovedItem "CHARGEBACK" ref a debit → MovedItem "CHARGEBACK_REVERSED" ref a won →
      (∀ item ∈ [notice, debit, won], verify item) →
      (webhooks.flatten = [notice, debit] ∨ webhooks.flatten = [debit, notice]) →
      (NetsOnce (ingestAll s env "adyen" w (adyen.deliver webhooks)).ledger
        (ingestAll s env "adyen" w (adyen.deliver (webhooks ++ [[won]]))).ledger
        (invoiceIdOf ref) R a ↔ a = 0 ∨ a = R)) ∧
    (∀ payment dispute won envelopes,
      CkoTold "payment_chargeback" CkoData.paymentRef ref a payment →
      CkoTold "dispute_received" CkoData.disputeRef ref a dispute →
      (CkoTold "dispute_won" CkoData.disputeRef ref a won ∨
        CkoTold "dispute_canceled" CkoData.disputeRef ref a won) →
      (envelopes = [payment, dispute] ∨ envelopes = [dispute, payment]) →
      (NetsOnce (ingestAll s env "checkout" w (checkout.deliver envelopes)).ledger
        (ingestAll s env "checkout" w (checkout.deliver (envelopes ++ [won]))).ledger
        (invoiceIdOf ref) R a ↔ a = 0 ∨ a = R ∧ ref ≠ "")) ∧
    ∀ (w : World σ) notice, notice.eventCode = some "NOTIFICATION_OF_CHARGEBACK" →
      verify notice →
      ((∀ i, heldNet (ingestAll s env "adyen" w (adyen.deliver [[notice]])).ledger i =
        heldNet w.ledger i) ↔
      notice.success ≠ some "true" ∨ notice.value = 0 ∨
        amountOf w.ledger .caseRecovered (invoiceIdOf notice.ref) ≤
          amountOf w.ledger .caseReversed (invoiceIdOf notice.ref)) := by
  refine ⟨?_, ?_, ?_⟩
  · intro notice debit won webhooks hn hd hr hver hord
    exact adyen_netsOnce_iff s env w hw h0 ha hv hn hd hr hver hord
  · intro payment dispute won envelopes hp hd hr hord
    exact checkout_netsOnce_iff s env w hw h0 ha hs hp hd hr hord
  · intro w notice hc hver
    exact notice_unmoved_iff s env w hv hc hver

end

namespace Sample

/-- An invoice that Adyen knows as `1`. -/
def adyenAttempt : ExecuteParams :=
  { attempt with invoice := { invoice with id := invoiceIdOf "1", processorRef := "1" } }

/-- The shop after its recovery. -/
def recovered : World Unit := serveAll service env world [.execute stripe adyenAttempt]

def adyen : AdyenAdapter := ⟨"mrc_1", some fun _ => true⟩

def checkout : CheckoutAdapter := { merchantId := "mrc_1" }

/-- A notification about some amount of the invoice. -/
def item (code : String) (amount : ℚ) : AdyenNotificationItem where
  pspReference := some ("psp_" ++ code)
  merchantReference := some "1"
  amount := some { value := some amount, currency := some "USD" }
  eventCode := some code
  success := some "true"

end Sample

/-- A chargeback of all that is recovered nets once. -/
theorem chargeback_nets_once_full :
    NetsOnce (ingestAll Sample.service Sample.env "adyen" Sample.recovered
        (Sample.adyen.deliver [[Sample.item "NOTIFICATION_OF_CHARGEBACK" 100],
          [Sample.item "CHARGEBACK" 100]])).ledger
      (ingestAll Sample.service Sample.env "adyen" Sample.recovered
        (Sample.adyen.deliver ([[Sample.item "NOTIFICATION_OF_CHARGEBACK" 100],
          [Sample.item "CHARGEBACK" 100]] ++ [[Sample.item "CHARGEBACK_REVERSED" 100]]))).ledger
      (invoiceIdOf "1") 100 100 := by
  have hw : Standing Sample.recovered.ledger (invoiceIdOf "1") 100 0 0 :=
    ⟨by decide +kernel, by decide +kernel, by decide +kernel⟩
  have h := (chargeback_nets_once_iff Sample.service Sample.env Sample.recovered (a := 100) hw
    (by norm_num) le_rfl (show Sample.adyen.verifyHmac = some (fun _ => true) from rfl)
    (show Sample.checkout.webhookSecret = true from rfl)).1
  exact (h (Sample.item "NOTIFICATION_OF_CHARGEBACK" 100) (Sample.item "CHARGEBACK" 100)
    (Sample.item "CHARGEBACK_REVERSED" 100)
    [[Sample.item "NOTIFICATION_OF_CHARGEBACK" 100], [Sample.item "CHARGEBACK" 100]]
    ⟨rfl, rfl, rfl, rfl⟩ ⟨rfl, rfl, rfl, rfl⟩ ⟨rfl, rfl, rfl, rfl⟩ (fun _ _ => rfl)
    (.inl rfl)).2 (.inr rfl)

/-- A chargeback of 30 is taken twice: 40 are left of 100, and 70 after it is won. -/
theorem chargeback_nets_once_fails :
    heldNet Sample.recovered.ledger (invoiceIdOf "1") = 100 ∧
      heldNet (ingestAll Sample.service Sample.env "adyen" Sample.recovered
        (Sample.adyen.deliver [[Sample.item "NOTIFICATION_OF_CHARGEBACK" 30],
          [Sample.item "CHARGEBACK" 30]])).ledger (invoiceIdOf "1") = 40 ∧
      heldNet (ingestAll Sample.service Sample.env "adyen" Sample.recovered
        (Sample.adyen.deliver [[Sample.item "NOTIFICATION_OF_CHARGEBACK" 30],
          [Sample.item "CHARGEBACK" 30], [Sample.item "CHARGEBACK_REVERSED" 30]])).ledger
        (invoiceIdOf "1") = 70 := by
  refine ⟨?_, ?_, ?_⟩ <;> decide +kernel

end AX10M
