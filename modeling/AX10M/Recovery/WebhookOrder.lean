/-
  The two webhooks of a failed payment at Stripe.

  `invoice.payment_failed` carries no decline, `charge.failed` the real one.  The first
  one to arrive is recorded in the assignment, the last one decides the plan that stands.
  Neither depends on the order of arrival exactly if the two tell the same story
  (`order_free_iff`).
-/
import AX10M.Poal.Stripe
import AX10M.Recovery.Opening
import AX10M.Recovery.Strata

namespace AX10M

open Js Effects Logs

/-! ## The webhooks -/

/-- The two events of a failed payment; the charge names its invoice. -/
structure FailedPayment where
  invoiceEvent : StripeEvent
  chargeEvent : StripeEvent
  invoice_type : invoiceEvent.type = some "invoice.payment_failed"
  charge_type : chargeEvent.type = some "charge.failed"
  ofInvoice : chargeEvent.object.invoice = some invoiceEvent.object.id

namespace StripeAdapter

variable (adapter : StripeAdapter) (event : StripeEvent)

/-- The failure that an `invoice.payment_failed` is mapped to. -/
def invoiceFailure : FailurePayload :=
  let occurredAt := isoFromEpoch event.created
  let invoice := adapter.mapInvoice event.object occurredAt true
  { invoice := some invoice
    decline := some (buildDecline none invoice.id (attemptIdOf none) occurredAt)
    customer := some (customerFromInvoice invoice
      (contactOverrides event.object.customerEmail event.object.customerPhone)) }

/-- The raw code of a charge that failed. -/
def chargeCode (obj : StripeObject) : Option String :=
  obj.declineCode.or (obj.failureCode.or obj.outcomeReason)

/-- The failure that a `charge.failed` is mapped to. -/
def chargeFailure : FailurePayload :=
  let occurredAt := isoFromEpoch event.created
  let invoice := adapter.mapChargeAsInvoice event.object occurredAt true
  { invoice := some invoice
    decline := some (buildDecline (chargeCode event.object) invoice.id
      (attemptIdOf (some event.object.id)) occurredAt)
    customer := some (customerFromInvoice invoice
      (contactOverrides (event.object.billingDetails.email.or event.object.receiptEmail)
        event.object.billingDetails.phone)) }

/-- The canonical event of a failure. -/
def failureEvent (payload : FailurePayload) : CanonicalEvent :=
  ⟨"ax10m_evt_" ++ event.id.getD "", adapter.merchantId, event.id.getD "",
    isoFromEpoch event.created, .invoiceFailed payload⟩

end StripeAdapter

namespace FailedPayment

variable (p : FailedPayment) (adapter : StripeAdapter)

/-- What the first webhook is mapped to. -/
def fromInvoice : CanonicalEvent :=
  adapter.failureEvent p.invoiceEvent (adapter.invoiceFailure p.invoiceEvent)

/-- What the second webhook is mapped to. -/
def fromCharge : CanonicalEvent :=
  adapter.failureEvent p.chargeEvent (adapter.chargeFailure p.chargeEvent)

/-- The invoice, as the two webhooks tell of it. -/
def invoice : Invoice :=
  adapter.mapInvoice p.invoiceEvent.object (isoFromEpoch p.invoiceEvent.created) true

def chargedInvoice : Invoice :=
  adapter.mapChargeAsInvoice p.chargeEvent.object (isoFromEpoch p.chargeEvent.created) true

/-- The real decline code. -/
def code : DeclineCode := mapStripeDeclineCode (StripeAdapter.chargeCode p.chargeEvent.object)

/-- They tell of one invoice. -/
theorem chargedInvoice_id : (p.chargedInvoice adapter).id = (p.invoice adapter).id := by
  simp only [chargedInvoice, invoice, StripeAdapter.mapChargeAsInvoice, StripeAdapter.mapInvoice,
    p.ofInvoice, Option.getD_some]

/-- Both webhooks arrive, any number of times and in any order, among events that are not about
    the invoice. -/
def Arrive (events : List CanonicalEvent) : Prop :=
  p.fromInvoice adapter ∈ events ∧ p.fromCharge adapter ∈ events ∧
    ∀ e ∈ events, ∀ i, failedInvoice e = some i → i.id = (p.invoice adapter).id →
      e = p.fromInvoice adapter ∨ e = p.fromCharge adapter

/-- The two webhooks tell the same story: of amount, currency and customer, of a decline in the
    family of an unknown one, and to treatment of an unknown decline. -/
structure Consistent (s : RecoveryCaseService) : Prop where
  amount : (p.invoice adapter).amount = (p.chargedInvoice adapter).amount
  customer : (p.invoice adapter).customerId = (p.chargedInvoice adapter).customerId
  family : familyOf p.code = .gray
  code : Treated s (p.invoice adapter) → p.code = .unknown

end FailedPayment

/-! ## What stands in the ledger -/

/-- The details of the assignments of an invoice. -/
def assignedDetails (ledger : List LedgerEntry) (invoiceId : String) : List Record :=
  (assignments ledger invoiceId).map LedgerEntry.detail

/-- The plans of an invoice. -/
def plansOf (ledger : List LedgerEntry) (invoiceId : String) : List LedgerEntry :=
  ledger.filter fun e => e.type = .recoveryPlanned ∧ e.isFor invoiceId

/-- The decline code that a plan was made with. -/
def plannedCode (e : LedgerEntry) : Option String :=
  match e.field "features" with
  | some (.obj features) => str (Record.get features "declineCode")
  | _ => none

/-- In every order of arrival the assignment is the same, and the last plan is made with the real
    decline code. -/
structure OrderFree (p : FailedPayment) (adapter : StripeAdapter)
    (ledgerOf : List (CanonicalEvent × Option String) → List LedgerEntry) : Prop where
  assigned : ∀ events events', p.Arrive adapter (events.map Prod.fst) →
    p.Arrive adapter (events'.map Prod.fst) →
    assignedDetails (ledgerOf events) (p.invoice adapter).id =
      assignedDetails (ledgerOf events') (p.invoice adapter).id
  planned : ∀ events, p.Arrive adapter (events.map Prod.fst) →
    ∀ e, (plansOf (ledgerOf events) (p.invoice adapter).id).getLast? = some e →
      plannedCode e = some p.code.text

section

variable {σ : Type} {s : RecoveryCaseService} {cases : List FailedCase} {w : World σ}

theorem DeclineCode.text_injective : Function.Injective DeclineCode.text := by
  intro c c' h
  cases c <;> cases c' <;> first | rfl | exact absurd h (by decide)

theorem DeclineCode.text_ne_empty (c : DeclineCode) : c.text ≠ "" := by
  cases c <;> decide

theorem Plans.plannedCode {invoice : Invoice} {code : DeclineCode} {e : LedgerEntry}
    (h : Plans invoice code e) : plannedCode e = some code.text := by
  obtain ⟨f, hf, rfl⟩ := h.features
  unfold AX10M.plannedCode
  rw [hf]
  exact str_str (DeclineCode.text_ne_empty _)

/-- The assignment of an invoice is that of the first case of its id. -/
theorem Traced.assignedDetails (h : Traced s cases w) (i : String) :
    assignedDetails w.ledger i =
      ((cases.find? fun c => c.invoiceId = i).map fun c => c.entry.detail).toList := by
  have hfilter : assignments w.ledger i =
      ((w.ledger.filter (ofType .holdoutAssigned)).filter fun e => e.isFor i) := by
    rw [List.filter_filter]
    refine List.filter_congr fun e _ => ?_
    simp [ofType]
  have hkey : ((firsts FailedCase.invoiceId cases).filter
      ((fun e => LedgerEntry.isFor e i) ∘ FailedCase.entry)) =
      (firsts FailedCase.invoiceId cases).filter fun c => c.invoiceId = i := by
    refine List.filter_congr fun c _ => ?_
    simp only [Function.comp, LedgerEntry.isFor, c.entry_invoiceId]
    rfl
  rw [AX10M.assignedDetails, hfilter, h.assigned, List.filter_map, hkey, firsts_filter_key]
  cases cases.find? fun c => c.invoiceId = i <;> rfl

/-- The last plan of an invoice is made with the code of its last treated case. -/
theorem Traced.plansOf (h : Traced s cases w) (i : String) :
    List.Forall₂ (fun c e => Plans c.invoice c.payload.code e)
      (cases.filter fun c => c.treated ∧ c.invoiceId = i) (plansOf w.ledger i) := by
  have hcases : (cases.filter fun c => c.treated ∧ c.invoiceId = i) =
      (cases.filter FailedCase.treated).filter fun c => c.invoiceId = i := by
    rw [List.filter_filter]
    refine List.filter_congr fun c _ => ?_
    simp [Bool.and_comm]
  have hplans : AX10M.plansOf w.ledger i =
      (w.ledger.filter (ofType .recoveryPlanned)).filter fun e => e.isFor i := by
    rw [List.filter_filter]
    refine List.filter_congr fun e _ => ?_
    simp [ofType, Bool.and_comm]
  rw [hcases, hplans]
  refine List.rel_filter ?_ h.planned
  intro c e hp
  show decide (c.invoiceId = i) = true ↔ e.isFor i = true
  rw [decide_eq_true_iff, LedgerEntry.isFor_iff, hp.invoiceId]
  simp [FailedCase.invoiceId]

/-! ## The two failures as cases -/

variable (p : FailedPayment) (adapter : StripeAdapter)

/-- With a control fraction in range, the first webhook is a case without a code. -/
theorem FailedPayment.case_fromInvoice
    (hr : 0 ≤ s.holdoutConfig.controlFraction ∧ s.holdoutConfig.controlFraction < 1) :
    ∃ c, s.failedCase (p.fromInvoice adapter) = some c ∧ c.invoice = p.invoice adapter ∧
      c.payload.code = .unknown := by
  obtain ⟨a, ha⟩ := exists_assignmentOf hr (p.invoice adapter)
    (adapter.invoiceFailure p.invoiceEvent).decline
  exact ⟨⟨_, _, _, a⟩, s.failedCase_eq_some_iff.2 ⟨rfl, rfl, ha, rfl⟩, rfl, rfl⟩

/-- The second one is a case with the real code. -/
theorem FailedPayment.case_fromCharge
    (hr : 0 ≤ s.holdoutConfig.controlFraction ∧ s.holdoutConfig.controlFraction < 1) :
    ∃ c, s.failedCase (p.fromCharge adapter) = some c ∧ c.invoice = p.chargedInvoice adapter ∧
      c.payload.code = p.code := by
  obtain ⟨a, ha⟩ := exists_assignmentOf hr (p.chargedInvoice adapter)
    (adapter.chargeFailure p.chargeEvent).decline
  exact ⟨⟨_, _, _, a⟩, s.failedCase_eq_some_iff.2 ⟨rfl, rfl, ha, rfl⟩, rfl, rfl⟩

/-- Out of range there are no cases. -/
theorem casesOf_of_range
    (hr : ¬ (0 ≤ s.holdoutConfig.controlFraction ∧ s.holdoutConfig.controlFraction < 1))
    (events : List CanonicalEvent) : s.casesOf events = [] := by
  refine List.filterMap_eq_nil_iff.2 fun e _ => ?_
  cases hc : s.failedCase e with
  | none => rfl
  | some c =>
    obtain ⟨-, -, ha, -⟩ := s.failedCase_eq_some_iff.1 hc
    have hr' : s.holdoutConfig.controlFraction < 0 ∨ s.holdoutConfig.controlFraction ≥ 1 := by
      rw [not_and_or, not_le, not_lt] at hr
      exact hr
    unfold RecoveryCaseService.assignmentOf assign at ha
    rw [if_pos hr'] at ha
    cases ha

/-- The assignments of two failures of an invoice have one detail if they agree on the rest. -/
theorem FailedCase.detail_eq_iff {c c' : FailedCase} (hid : c.invoice.id = c'.invoice.id) :
    c.entry.detail = c'.entry.detail ↔ c.invoice.customerId = c'.invoice.customerId ∧
      c.assignment.bucket = c'.assignment.bucket ∧
      c.assignment.stratumKey = c'.assignment.stratumKey ∧ c.invoice.amount = c'.invoice.amount := by
  constructor
  · intro h
    have hf : ∀ f, c.entry.field f = c'.entry.field f :=
      fun f => congrArg (fun d => Record.get d f) h
    have hcust := hf "customerId"
    have hkey := hf "stratumKey"
    have hamount := hf "amount"
    have hcur := hf "currency"
    have hb : bucketOf c.entry = bucketOf c'.entry := by
      unfold bucketOf
      rw [hf]
    rw [bucketOf_entry, bucketOf_entry] at hb
    simp only [entry_customerId, entry_stratumKey, entry_amount, entry_currency, Option.some.injEq,
      Json.str.injEq, Json.num.injEq] at hcust hkey hamount hcur
    refine ⟨hcust, Option.some.inj hb, hkey, ?_⟩
    calc c.invoice.amount = ⟨c.invoice.amount.amount, c.invoice.amount.currency⟩ := rfl
      _ = ⟨c'.invoice.amount.amount, c'.invoice.amount.currency⟩ := by rw [hamount, hcur]
  · rintro ⟨hcust, hb, hkey, hamount⟩
    simp only [entry, assignedEntry, assignedDetail, hid, hcust, hb, hkey, hamount]

variable {ci cc : FailedCase}

/-- The condition, said of the two cases. -/
theorem FailedPayment.consistent_iff (hi : s.failedCase (p.fromInvoice adapter) = some ci)
    (hii : ci.invoice = p.invoice adapter) (hc : s.failedCase (p.fromCharge adapter) = some cc)
    (hci : cc.invoice = p.chargedInvoice adapter) :
    p.Consistent adapter s ↔
      ci.entry.detail = cc.entry.detail ∧ (ci.treated → p.code = .unknown) := by
  obtain ⟨hbi, -, hai, -⟩ := s.failedCase_eq_some_iff.1 hi
  obtain ⟨hbc, -, hac, -⟩ := s.failedCase_eq_some_iff.1 hc
  obtain ⟨hti, hki⟩ := assignmentOf_ok hai
  obtain ⟨htc, hkc⟩ := assignmentOf_ok hac
  have hpi : ci.payload = adapter.invoiceFailure p.invoiceEvent :=
    (EventBody.invoiceFailed.inj hbi).symm
  have hpc : cc.payload = adapter.chargeFailure p.chargeEvent :=
    (EventBody.invoiceFailed.inj hbc).symm
  rw [hii, hpi] at hki
  rw [hci, hpc] at hkc
  rw [hii] at hti
  rw [hci] at htc
  have hid : ci.invoice.id = cc.invoice.id := by rw [hii, hci, p.chargedInvoice_id]
  have htr : ci.treated ↔ Treated s (p.invoice adapter) := by
    rw [← hti]
    simp [FailedCase.treated]
  rw [FailedCase.detail_eq_iff hid, hii, hci, htr]
  constructor
  · rintro ⟨hamount, hcust, hfam, hcode⟩
    refine ⟨⟨hcust, ?_, ?_, hamount⟩, hcode⟩
    · have hsame : Treated s (p.invoice adapter) ↔ Treated s (p.chargedInvoice adapter) :=
        treated_congr rfl hcust (.inr (p.chargedInvoice_id adapter).symm)
      rw [← hti, ← htc] at hsame
      cases hb : ci.assignment.bucket <;> cases hb' : cc.assignment.bucket <;> simp_all
    · rw [hki, hkc]
      have hst : deriveStratum (p.invoice adapter) (adapter.invoiceFailure p.invoiceEvent).decline =
          deriveStratum (p.chargedInvoice adapter) (adapter.chargeFailure p.chargeEvent).decline := by
        unfold deriveStratum
        rw [hamount]
        exact congrArg (fun f => Stratum.mk _ f .unknown) hfam.symm
      rw [hst]
  · rintro ⟨⟨hcust, -, hkey, hamount⟩, hcode⟩
    refine ⟨hamount, hcust, ?_, hcode⟩
    rw [hki, hkc] at hkey
    have hst : stratumKey ⟨mrrTierFromAmount (p.invoice adapter).amount.amount, .gray, .unknown⟩ =
        stratumKey ⟨mrrTierFromAmount (p.chargedInvoice adapter).amount.amount, familyOf p.code,
          .unknown⟩ := hkey
    rw [hamount] at hst
    generalize mrrTierFromAmount (p.chargedInvoice adapter).amount.amount = tier at hst
    cases hf : familyOf p.code with
    | gray => rfl
    | soft =>
      rw [hf] at hst
      cases tier <;> exact absurd hst (by decide)
    | hard =>
      rw [hf] at hst
      cases tier <;> exact absurd hst (by decide)

/-- A case of the invoice is one of the two. -/
theorem FailedPayment.case_of_arrive {events : List CanonicalEvent}
    (harr : p.Arrive adapter events) (hi : s.failedCase (p.fromInvoice adapter) = some ci)
    (hc : s.failedCase (p.fromCharge adapter) = some cc) {c : FailedCase}
    (hmem : c ∈ s.casesOf events) (hid : c.invoiceId = (p.invoice adapter).id) :
    c = ci ∨ c = cc := by
  obtain ⟨e, he, hec⟩ := mem_casesOf.1 hmem
  rcases harr.2.2 e he c.invoice (failedInvoice_of_case hec) hid with rfl | rfl
  · exact .inl (Option.some.inj (hec.symm.trans hi))
  · exact .inr (Option.some.inj (hec.symm.trans hc))

/-- The assignment of an invoice whose two webhooks arrive is that of one of them. -/
theorem FailedPayment.assignedDetails_of_arrive {events : List CanonicalEvent}
    (ht : Traced s (s.casesOf events) w) (harr : p.Arrive adapter events)
    (hi : s.failedCase (p.fromInvoice adapter) = some ci) (hii : ci.invoice = p.invoice adapter)
    (hc : s.failedCase (p.fromCharge adapter) = some cc)
    (hsame : ci.entry.detail = cc.entry.detail) :
    AX10M.assignedDetails w.ledger (p.invoice adapter).id = [ci.entry.detail] := by
  have hmem : ci ∈ s.casesOf events := mem_casesOf.2 ⟨_, harr.1, hi⟩
  have hsome : ((s.casesOf events).find? fun c => c.invoiceId = (p.invoice adapter).id).isSome :=
    List.find?_isSome.2 ⟨ci, hmem, by simp [FailedCase.invoiceId, hii]⟩
  obtain ⟨c, hfind⟩ := Option.isSome_iff_exists.1 hsome
  have hid : c.invoiceId = (p.invoice adapter).id := by simpa using List.find?_some hfind
  rw [ht.assignedDetails, hfind]
  rcases p.case_of_arrive adapter harr hi hc (List.mem_of_find?_eq_some hfind) hid with rfl | rfl
  · rfl
  · rw [hsame]
    rfl

end

section

variable {σ : Type} (s : RecoveryCaseService) (env : Env σ) (policy : σ) (clock : ℕ → ℤ)
  (p : FailedPayment) (adapter : StripeAdapter)

/-- Both webhooks arrive, the first one first or the other way round. -/
theorem FailedPayment.arrive_pair (a b : Option String) :
    p.Arrive adapter ([(p.fromInvoice adapter, a), (p.fromCharge adapter, b)].map Prod.fst) ∧
      p.Arrive adapter ([(p.fromCharge adapter, b), (p.fromInvoice adapter, a)].map Prod.fst) := by
  refine ⟨⟨by simp, by simp, fun e he _ _ _ => ?_⟩, ⟨by simp, by simp, fun e he _ _ _ => ?_⟩⟩
  · simpa using he
  · simpa [or_comm] using he

/-- The case of a failed payment does not depend on the order of its two webhooks, exactly if (in
    a service that assigns at all) they tell the same story. -/
theorem order_free_iff :
    OrderFree p adapter (fun events =>
        (serveAll s env (World.init policy clock) (events.map fun e => .webhook e.1 e.2)).ledger) ↔
      (0 ≤ s.holdoutConfig.controlFraction ∧ s.holdoutConfig.controlFraction < 1 →
        p.Consistent adapter s) := by
  have ht := traced_run s env policy clock
  by_cases hr : 0 ≤ s.holdoutConfig.controlFraction ∧ s.holdoutConfig.controlFraction < 1
  · obtain ⟨ci, hi, hii, hcodei⟩ := p.case_fromInvoice adapter hr
    obtain ⟨cc, hc, hci, hcodec⟩ := p.case_fromCharge adapter hr
    rw [forall_prop_of_true hr, p.consistent_iff adapter hi hii hc hci]
    constructor
    · intro h
      obtain ⟨hic, hci'⟩ := p.arrive_pair adapter none none
      have hcases : s.casesOf ([(p.fromInvoice adapter, none), (p.fromCharge adapter, none)].map
          (Prod.fst : CanonicalEvent × Option String → _)) = [ci, cc] := by
        simp [RecoveryCaseService.casesOf, hi, hc]
      have hcases' : s.casesOf ([(p.fromCharge adapter, none), (p.fromInvoice adapter, none)].map
          (Prod.fst : CanonicalEvent × Option String → _)) = [cc, ci] := by
        simp [RecoveryCaseService.casesOf, hi, hc]
      have hti := ht [(p.fromInvoice adapter, none), (p.fromCharge adapter, none)]
      have htc := ht [(p.fromCharge adapter, none), (p.fromInvoice adapter, none)]
      rw [hcases] at hti
      rw [hcases'] at htc
      have hidi : ci.invoiceId = (p.invoice adapter).id := by rw [FailedCase.invoiceId, hii]
      have hidc : cc.invoiceId = (p.invoice adapter).id := by
        rw [FailedCase.invoiceId, hci, p.chargedInvoice_id]
      have hdetail : ci.entry.detail = cc.entry.detail := by
        have hsame := h.assigned _ _ hic hci'
        rw [hti.assignedDetails, htc.assignedDetails] at hsame
        simpa [hidi, hidc] using hsame
      refine ⟨hdetail, fun htr => ?_⟩
      -- the charge's case is treated too, so that the plan without a code comes last
      have htrc : cc.treated := by
        have hb := ((FailedCase.detail_eq_iff (hidi.trans hidc.symm)).1 hdetail).2.1
        simp only [FailedCase.treated] at htr ⊢
        rwa [← hb]
      have hplans := htc.plansOf (p.invoice adapter).id
      simp only [List.filter_cons, htr, htrc, hidi, hidc, and_self, decide_true, if_true,
        List.filter_nil] at hplans
      obtain ⟨y, _, hy, hrest, hl⟩ := List.forall₂_cons_left_iff.1 hplans
      obtain ⟨y', _, hy', hnil, hl'⟩ := List.forall₂_cons_left_iff.1 hrest
      obtain rfl := List.forall₂_nil_left_iff.1 hnil
      have hlast : (plansOf (serveAll s env (World.init policy clock)
          ([(p.fromCharge adapter, none), (p.fromInvoice adapter, none)].map
            fun e => .webhook e.1 e.2)).ledger (p.invoice adapter).id).getLast? = some y' := by
        rw [hl, hl']
        rfl
      have hreal := h.planned _ hci' y' hlast
      rw [hy'.plannedCode, hcodei] at hreal
      exact (DeclineCode.text_injective (Option.some.inj hreal)).symm
    · rintro ⟨hdetail, hcode⟩
      constructor
      · intro events events' harr harr'
        rw [p.assignedDetails_of_arrive adapter (ht events) harr hi hii hc hdetail,
          p.assignedDetails_of_arrive adapter (ht events') harr' hi hii hc hdetail]
      · intro events harr y hy
        obtain ⟨c, hlast, hp⟩ := getLast_related ((ht events).plansOf (p.invoice adapter).id) hy
        obtain ⟨hmem, hcond⟩ := List.mem_filter.1 (List.mem_of_getLast? hlast)
        obtain ⟨htr, hid⟩ : c.treated ∧ c.invoiceId = (p.invoice adapter).id := by
          simpa using hcond
        rw [hp.plannedCode]
        rcases p.case_of_arrive adapter harr hi hc hmem hid with rfl | rfl
        · rw [hcodei, hcode htr]
        · rw [hcodec]
  · refine iff_of_true ⟨fun events events' _ _ => ?_, fun events _ y hy => ?_⟩ fun h => absurd h hr
    · rw [(ht events).assignedDetails, (ht events').assignedDetails, casesOf_of_range hr,
        casesOf_of_range hr]
    · obtain ⟨c, hlast, -⟩ := getLast_related ((ht events).plansOf (p.invoice adapter).id) hy
      rw [casesOf_of_range hr] at hlast
      cases hlast

end

namespace Sample

/-- A payment of a customer of Stripe that failed with a lost card. -/
def lostCardPayment : FailedPayment where
  invoiceEvent := {
    id := some "evt_1"
    type := some "invoice.payment_failed"
    created := some 1786881600
    object := { id := "in_1", customer := some "cus_1", amountDue := some 14900 } }
  chargeEvent := {
    id := some "evt_2"
    type := some "charge.failed"
    created := some 1786881600
    object := {
      id := "ch_1"
      invoice := some "in_1"
      customer := some "cus_1"
      amount := some 14900
      declineCode := some "lost_card" } }
  invoice_type := rfl
  charge_type := rfl
  ofInvoice := rfl

/-- SHA-256 on the unit of the customer. -/
def customerSha256 : Digest := fun text =>
  if text = "ax10m-holdout-v1:mrc_1:ax10m_cus_cus_1" then
    "2c34c2103a20240b774900760dbf4ae58220841a56b0955e69db0d736131bb6e"
  else ""

def customerService : RecoveryCaseService := { sha256 := customerSha256 }

end Sample

/-- When the invoice's webhook comes last, the standing plan of a lost card is made with an unknown
    decline. -/
theorem order_free_fails :
    ¬ OrderFree Sample.lostCardPayment ⟨"mrc_1"⟩ (fun events =>
      (serveAll Sample.customerService Sample.env Sample.world
        (events.map fun e => .webhook e.1 e.2)).ledger) := by
  intro h
  obtain ⟨-, harr⟩ := Sample.lostCardPayment.arrive_pair ⟨"mrc_1"⟩ (some "stripe") (some "stripe")
  have hplan : ((plansOf (serveAll Sample.customerService Sample.env Sample.world
      ([(Sample.lostCardPayment.fromCharge ⟨"mrc_1"⟩, some "stripe"),
        (Sample.lostCardPayment.fromInvoice ⟨"mrc_1"⟩, some "stripe")].map
          fun e => .webhook e.1 e.2)).ledger "ax10m_inv_in_1").getLast?.bind plannedCode) =
      some "unknown" := by
    decide +kernel
  obtain ⟨y, hy, hcode⟩ := Option.bind_eq_some_iff.1 hplan
  have hreal := h.planned _ harr y hy
  rw [hcode] at hreal
  exact absurd hreal (by decide +kernel)

end AX10M
