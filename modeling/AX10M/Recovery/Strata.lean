/-
  The strata of the assignments, and of the cohorts that are built from them.

  A stratum is derived from the amount and the decline of each failure.  It is the one of
  the customer's first failure, and guests are kept apart from identified customers,
  exactly if the failures of a run happen to be so (`strata_kept_iff`).
-/
import AX10M.Recovery.Arms

namespace AX10M

open Js Effects Logs

namespace FailedCase

variable (c : FailedCase)

/-- The stratum of a failure, by its amount and its decline. -/
def stratum : String := stratumKey (deriveStratum c.invoice c.payload.decline)

/-- The failure is one of the customer of the merchant. -/
def ofCustomer (merchantId customerId : String) : Bool :=
  c.invoice.merchantId = merchantId ∧ c.invoice.customerId = customerId

/-- The failure is one of the merchant, of an invoice with an id, at a time in the period. -/
def inCohort (merchantId : String) (period : BillingPeriod) : Prop :=
  assignedIn c.entry merchantId period ∧ c.invoice.id ≠ ""

end FailedCase

/-- The entry is about a guest, who has no customer id. -/
def ofGuest (e : LedgerEntry) : Prop := str (e.field "customerId") = none

/-- Strata are those of the customers' first failures, and no stratum of a cohort of the periods
    has an observation of a guest and one of an identified customer. -/
structure StrataKept (cases : List FailedCase) (ledger : List LedgerEntry)
    (periods : Set BillingPeriod) : Prop where
  sticky : ∀ x ∈ ledger, x.type = .holdoutAssigned → ∀ customerId, customerId ≠ "" →
    x.field "customerId" = some (.str customerId) →
    ∃ first, cases.find? (fun c => c.ofCustomer x.merchantId customerId) = some first ∧
      x.field "stratumKey" = some (.str first.stratum)
  separate : ∀ merchantId, ∀ period ∈ periods,
    ∀ x ∈ ledger.filter (fun e => assignedIn e merchantId period),
    ∀ y ∈ ledger.filter (fun e => assignedIn e merchantId period), ofGuest x → ¬ ofGuest y →
    ∀ o o', observationOf (netByInvoice ledger merchantId) x = some o →
      observationOf (netByInvoice ledger merchantId) y = some o' → o.stratum ≠ o'.stratum

/-- The failures that open an invoice derive the stratum of their customer's first failure, and
    those of guests derive other strata than those of identified customers of a cohort. -/
structure StrataAgree (cases : List FailedCase) (periods : Set BillingPeriod) : Prop where
  customer : ∀ c ∈ firsts FailedCase.invoiceId cases, c.invoice.customerId ≠ "" →
    ∀ first, cases.find? (fun f => f.ofCustomer c.invoice.merchantId c.invoice.customerId) =
      some first → c.stratum = first.stratum
  guest : ∀ g ∈ firsts FailedCase.invoiceId cases, ∀ c ∈ firsts FailedCase.invoiceId cases,
    g.invoice.customerId = "" → c.invoice.customerId ≠ "" →
    ∀ merchantId, ∀ period ∈ periods, g.inCohort merchantId period → c.inCohort merchantId period →
      g.stratum ≠ c.stratum

section

variable {s : RecoveryCaseService} {events : List CanonicalEvent} {c : FailedCase}

theorem stratumKey_ne_empty (st : Stratum) : stratumKey st ≠ "" := by
  intro h
  have := congrArg String.length h
  simp [stratumKey] at this

/-- A case is recorded with the stratum that is derived from it. -/
theorem stratumKey_of_case (h : c ∈ s.casesOf events) : c.assignment.stratumKey = c.stratum := by
  obtain ⟨e, -, hc⟩ := mem_casesOf.1 h
  obtain ⟨-, -, ha, -⟩ := s.failedCase_eq_some_iff.1 hc
  exact (assignmentOf_ok ha).2

theorem ofGuest_entry (c : FailedCase) : ofGuest c.entry ↔ c.invoice.customerId = "" := by
  unfold ofGuest
  rw [c.entry_customerId]
  simp [str]

/-- The observation of a case. -/
theorem observationOf_entry (h : c ∈ s.casesOf events) (net : Map String ℚ)
    {o : UpliftObservation ℚ} (ho : observationOf net c.entry = some o) :
    c.invoice.id ≠ "" ∧ o.stratum = c.stratum := by
  unfold observationOf at ho
  obtain ⟨invoiceId, hi, ho⟩ := Option.bind_eq_some_iff.1 ho
  obtain ⟨arm, -, ho⟩ := Option.bind_eq_some_iff.1 ho
  obtain rfl := Option.some.inj ho
  rw [c.entry_invoiceId] at hi
  obtain ⟨heq, hne⟩ := str_eq_some hi
  obtain rfl : c.invoice.id = invoiceId := by simpa using heq
  refine ⟨hne, ?_⟩
  have hst := stratumKey_of_case h
  simp only [c.entry_stratumKey, hst, str_str (stratumKey_ne_empty _), FailedCase.stratum,
    Option.getD_some]

theorem exists_observation (c : FailedCase) (net : Map String ℚ) (h : c.invoice.id ≠ "") :
    ∃ o, observationOf net c.entry = some o := by
  unfold observationOf
  rw [c.entry_invoiceId, str_str h, bucketOf_entry]
  exact ⟨_, rfl⟩

end

section

variable {σ : Type} {s : RecoveryCaseService} {events : List CanonicalEvent} {w : World σ}
  {periods : Set BillingPeriod}

/-- The customer of a case has a first failure. -/
theorem exists_firstOfCustomer {cases : List FailedCase} {c : FailedCase} (hc : c ∈ cases) :
    ∃ first ∈ cases, cases.find? (fun f => f.ofCustomer c.invoice.merchantId c.invoice.customerId) =
      some first := by
  have hsome : (cases.find? fun f =>
      f.ofCustomer c.invoice.merchantId c.invoice.customerId).isSome :=
    List.find?_isSome.2 ⟨c, hc, by simp [FailedCase.ofCustomer]⟩
  obtain ⟨first, hf⟩ := Option.isSome_iff_exists.1 hsome
  exact ⟨first, List.mem_of_find?_eq_some hf, hf⟩

theorem StrataKept.agree (ht : Traced s (s.casesOf events) w)
    (h : StrataKept (s.casesOf events) w.ledger periods) :
    StrataAgree (s.casesOf events) periods where
  customer c hc hne first hf := by
    obtain ⟨hl, htype⟩ := (ht.assigned_iff s).2 ⟨c, hc, rfl⟩
    obtain ⟨first', hf', hst⟩ := h.sticky _ hl htype _ hne c.entry_customerId
    obtain rfl : first = first' := Option.some.inj (hf.symm.trans hf')
    rw [c.entry_stratumKey, stratumKey_of_case (mem_of_mem_firsts hc)] at hst
    simpa using hst
  guest g hg c hc hgc hcc merchantId period hp hgm hcm := by
    obtain ⟨hgl, -⟩ := (ht.assigned_iff s).2 ⟨g, hg, rfl⟩
    obtain ⟨hcl, -⟩ := (ht.assigned_iff s).2 ⟨c, hc, rfl⟩
    obtain ⟨o, ho⟩ := exists_observation g (netByInvoice w.ledger merchantId) hgm.2
    obtain ⟨o', ho'⟩ := exists_observation c (netByInvoice w.ledger merchantId) hcm.2
    have hne := h.separate merchantId period hp _ (List.mem_filter.2 ⟨hgl, hgm.1⟩) _
      (List.mem_filter.2 ⟨hcl, hcm.1⟩) ((ofGuest_entry g).2 hgc)
      (fun hg' => hcc ((ofGuest_entry c).1 hg')) o o' ho ho'
    rwa [(observationOf_entry (mem_of_mem_firsts hg) _ ho).2,
      (observationOf_entry (mem_of_mem_firsts hc) _ ho').2] at hne

theorem StrataAgree.kept (ht : Traced s (s.casesOf events) w)
    (h : StrataAgree (s.casesOf events) periods) :
    StrataKept (s.casesOf events) w.ledger periods where
  sticky x hx htype customerId hne hcust := by
    obtain ⟨c, hc, rfl⟩ := (ht.assigned_iff s).1 ⟨hx, htype⟩
    rw [c.entry_customerId] at hcust
    obtain rfl : c.invoice.customerId = customerId := by simpa using hcust
    obtain ⟨first, -, hf⟩ := exists_firstOfCustomer (mem_of_mem_firsts hc)
    refine ⟨first, hf, ?_⟩
    rw [c.entry_stratumKey, stratumKey_of_case (mem_of_mem_firsts hc), h.customer c hc hne first hf]
  separate merchantId period hp x hx y hy hgx hgy o o' ho ho' := by
    have hassigned : ∀ z ∈ w.ledger.filter (fun e => assignedIn e merchantId period),
        ∃ c ∈ firsts FailedCase.invoiceId (s.casesOf events), c.entry = z ∧
          assignedIn c.entry merchantId period := by
      intro z hz
      obtain ⟨hzl, hza⟩ := List.mem_filter.1 hz
      have htype : z.type = .holdoutAssigned := by
        simp only [assignedIn, Bool.and_eq_true, decide_eq_true_eq] at hza
        exact hza.1.1
      obtain ⟨c, hc, rfl⟩ := (ht.assigned_iff s).1 ⟨hzl, htype⟩
      exact ⟨c, hc, rfl, hza⟩
    obtain ⟨g, hg, rfl, hga⟩ := hassigned x hx
    obtain ⟨c, hc, rfl, hca⟩ := hassigned y hy
    obtain ⟨hgi, hgs⟩ := observationOf_entry (mem_of_mem_firsts hg) _ ho
    obtain ⟨hci, hcs⟩ := observationOf_entry (mem_of_mem_firsts hc) _ ho'
    rw [hgs, hcs]
    exact h.guest g hg c hc ((ofGuest_entry g).1 hgx) (fun hc' => hgy ((ofGuest_entry c).2 hc'))
      merchantId period hp ⟨hga, hgi⟩ ⟨hca, hci⟩

/-- After any events, handled one after the other: strata are those of the customers' first
    failures and no cohort of the periods mixes guests with identified customers, exactly if the
    failures that open an invoice derive such strata. -/
theorem strata_kept_iff (s : RecoveryCaseService) (env : Env σ) (policy : σ) (clock : ℕ → ℤ)
    (events : List (CanonicalEvent × Option String)) (periods : Set BillingPeriod) :
    StrataKept (s.casesOf (events.map Prod.fst))
        (serveAll s env (World.init policy clock) (events.map fun e => .webhook e.1 e.2)).ledger
        periods ↔
      StrataAgree (s.casesOf (events.map Prod.fst)) periods :=
  ⟨fun h => h.agree (traced_run s env policy clock events),
    fun h => h.kept (traced_run s env policy clock events)⟩

end

namespace Sample

/-- A denied capture of an amount for an invoice. -/
def deniedCapture (invoiceId amount : String) (payerId : Option String) : PpWebhook where
  id := some ("WH-" ++ invoiceId)
  eventType := some "PAYMENT.CAPTURE.DENIED"
  createTime := some "2026-08-16T12:00:00.000Z"
  resource := {
    id := some ("CAP-" ++ invoiceId)
    invoiceId := some invoiceId
    payerId
    amount := some ⟨some amount, some "USD"⟩ }

/-- The events of denied captures of a merchant. -/
def deniedCaptures (webhooks : List PpWebhook) : List (CanonicalEvent × Option String) :=
  let adapter : PayPalAdapter := { merchantId := "mrc_1" }
  (webhooks.flatMap adapter.mapWebhook).map fun e => (e, some "paypal")

/-- A payer is denied on a small and on a larger invoice. -/
def smallThenLarge : List (CanonicalEvent × Option String) :=
  deniedCaptures [deniedCapture "1001" "14.90" (some "PAYER1"),
    deniedCapture "1002" "149.00" (some "PAYER1")]

/-- A payer and a guest are denied on invoices of one amount. -/
def payerAndGuest : List (CanonicalEvent × Option String) :=
  deniedCaptures [deniedCapture "1001" "149.00" (some "PAYER1"),
    deniedCapture "1003" "149.00" none]

/-- SHA-256 on the units of the payer and of the guest. -/
def guestSha256 : Digest := fun text =>
  if text = "ax10m-holdout-v1:mrc_1:guest:ax10m_inv_1003" then
    "3183df1ea7d8f949531f2cd915715735b9b3d49b8b36a46e220b1694585b7f6f"
  else unitSha256 text

def guestService : RecoveryCaseService := { sha256 := guestSha256 }

/-- What a run in September bills. -/
def augustCohort : BillingPeriod := monthBefore (Date.utc 2026 8 10)

end Sample

/-- A customer's second invoice is recorded with another stratum than the first; a guest and a
    customer share a stratum of the cohort of August. -/
theorem strata_kept_fails :
    let run := fun events : List (CanonicalEvent × Option String) =>
      serveAll Sample.guestService Sample.env Sample.world (events.map fun e => .webhook e.1 e.2)
    ¬ StrataKept (Sample.guestService.casesOf (Sample.smallThenLarge.map Prod.fst))
        (run Sample.smallThenLarge).ledger {Sample.augustCohort} ∧
      ¬ StrataKept (Sample.guestService.casesOf (Sample.payerAndGuest.map Prod.fst))
        (run Sample.payerAndGuest).ledger {Sample.augustCohort} := by
  intro run
  constructor
  · intro h
    have hx : ∃ x ∈ (run Sample.smallThenLarge).ledger, x.type = .holdoutAssigned ∧
        x.merchantId = "mrc_1" ∧ str (x.field "customerId") = some "ax10m_cus_PAYER1" ∧
        str (x.field "stratumKey") = some "mid|gray|unknown" := by
      decide +kernel
    have hfirst : ((Sample.guestService.casesOf (Sample.smallThenLarge.map Prod.fst)).find?
        fun c => c.ofCustomer "mrc_1" "ax10m_cus_PAYER1").map FailedCase.stratum =
        some "micro|gray|unknown" := by
      decide +kernel
    obtain ⟨x, hx, htype, hm, hc, hst⟩ := hx
    obtain ⟨first, hf, hkey⟩ := h.sticky x hx htype _ (str_eq_some hc).2 (str_eq_some hc).1
    rw [hm] at hf
    rw [hf] at hfirst
    rw [hkey, Option.some.inj hfirst] at hst
    exact absurd hst (by decide)
  · intro h
    have hxy : ∃ x ∈ (run Sample.payerAndGuest).ledger.filter
          (fun e => assignedIn e "mrc_1" Sample.augustCohort),
        ∃ y ∈ (run Sample.payerAndGuest).ledger.filter
          (fun e => assignedIn e "mrc_1" Sample.augustCohort),
        str (x.field "customerId") = none ∧ str (y.field "customerId") ≠ none ∧
        (observationOf (netByInvoice (run Sample.payerAndGuest).ledger "mrc_1") x).map
          UpliftObservation.stratum = some "mid|gray|unknown" ∧
        (observationOf (netByInvoice (run Sample.payerAndGuest).ledger "mrc_1") y).map
          UpliftObservation.stratum = some "mid|gray|unknown" := by
      decide +kernel
    obtain ⟨x, hx, y, hy, hgx, hgy, hox, hoy⟩ := hxy
    obtain ⟨o, ho, hso⟩ := Option.map_eq_some_iff.1 hox
    obtain ⟨o', ho', hso'⟩ := Option.map_eq_some_iff.1 hoy
    exact h.separate "mrc_1" Sample.augustCohort rfl x hx y hy hgx hgy o o' ho ho'
      (hso.trans hso'.symm)

end AX10M
