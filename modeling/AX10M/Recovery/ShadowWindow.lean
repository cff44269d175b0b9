/-
  The webhooks of a merchant in its shadow window.

  The service feeds the onboarding with the failures that it assigns to an arm, and with the
  payments.  `observations_after`: the observations of a merchant that has connected are what these
  reports make (`shadowObservations`).

  `baseline_kept_iff`: deliveries of the same webhooks, in another order and more than once, count
  the invoices that were paid as recovered by the baseline, and have the same baseline, if and only
  if in both each of them fails before a payment that no failure follows.
-/
import AX10M.Onboarding.Observed
import AX10M.Recovery.Failure

namespace AX10M

open Js Effects

/-- A delivery of a webhook's event, with the processor it came from. -/
abbrev EventDelivery := CanonicalEvent × Option String

/-- What an event reports of a merchant's invoice: a failure that is assigned to an arm, or a
    payment. -/
def RecoveryCaseService.shadowReport (s : RecoveryCaseService) (merchantId : String)
    (event : CanonicalEvent) : Option ShadowReport :=
  match event.body with
  | .invoiceFailed payload =>
    match payload.invoice with
    | some invoice =>
      match s.assignmentOf invoice payload.decline with
      | .ok _ =>
        if invoice.merchantId = merchantId then
          some (.failed invoice.id payload.code invoice.amount.amount)
        else none
      | .error _ => none
    | none => none
  | .invoicePaid invoice =>
    match invoice with
    | some invoice => if invoice.merchantId = merchantId then some (.paid invoice.id) else none
    | none => none
  | _ => none

section

variable {σ : Type}

/-- The world after the merchant has connected. -/
def World.connected (w : World σ) (merchantId processor now : String) : World σ :=
  { w with
    onboarding := Map.set w.onboarding merchantId
      ⟨beginOnboarding merchantId processor now, Map.empty⟩ }

/-- The observations of a merchant. -/
def World.observations (w : World σ) (merchantId : String) : Map String ShadowObservation :=
  ((w.onboarding.get merchantId).map MerchantOnboarding.observations).getD Map.empty

variable (s : RecoveryCaseService) (env : Env σ)

/-- The world after some deliveries. -/
def World.delivered (w : World σ) (ds : List EventDelivery) : World σ :=
  serveAll s env w (ds.map fun d => .webhook d.1 d.2)

/-- What deliveries report of a merchant's invoices. -/
def RecoveryCaseService.shadowReports (merchantId : String) (ds : List EventDelivery) :
    List ShadowReport :=
  ds.filterMap fun d => s.shadowReport merchantId d.1

/-! ## One delivery -/

variable {s env}

/-- Handling a failure that is assigned records it. -/
theorem handleFailure_onboarding (env : Env σ) (event : CanonicalEvent) {payload : FailurePayload}
    {invoice : Invoice} {a : Assignment} (ha : s.assignmentOf invoice payload.decline = .ok a)
    (w : World σ) :
    ((s.handleFailure event payload invoice).exec (World.handle env) w).2.onboarding =
      w.onboarding.recordFailure invoice.merchantId invoice.id payload.code
        invoice.amount.amount := by
  have hopen := (openCase_runs s env ha event.occurredAt w).ends
  have hfail : s.handleFailure event payload invoice =
      (s.openCase invoice (deriveStratum invoice payload.decline) event.occurredAt).bind
        fun bucket => .op (.observe invoice.merchantId invoice.customerId event.occurredAt
          (payload.customer.map Customer.createdAt)) fun _ =>
        .op (.recordFailure invoice.merchantId invoice.id payload.code invoice.amount.amount)
          fun _ => s.actOn payload invoice bucket := rfl
  rw [hfail, Prog.exec_bind_of hopen]
  let v : World σ := { w with
    openedInvoices := w.openedInvoices.insert invoice.id
    ledger := w.ledger ++ if invoice.id ∈ w.openedInvoices then []
      else [assignedEntry invoice event.occurredAt a]
    featureStore := w.featureStore.observe invoice.merchantId invoice.customerId event.occurredAt
      (payload.customer.map Customer.createdAt)
    onboarding := w.onboarding.recordFailure invoice.merchantId invoice.id payload.code
      invoice.amount.amount }
  obtain ⟨w', hacted, hrun⟩ := actOn_runs s env payload invoice a.bucket v
  show ((s.actOn payload invoice a.bucket).exec (World.handle env) v).2.onboarding = _
  rw [hrun.ends]
  exact hacted.onboarding

/-- Reversals leave the onboarding alone. -/
theorem onboarding_of_move (w : World σ) {event : CanonicalEvent} (pid : Option String) {m : Move}
    (h : event.body.move = some m) :
    (serve s env w (.webhook event pid)).onboarding = w.onboarding := by
  rw [serve_move s env w pid h]
  split_ifs <;> rfl

/-- What a delivery makes of the onboarding. -/
theorem serve_onboarding (w : World σ) (event : CanonicalEvent) (pid : Option String)
    {merchantId : String} {o : MerchantOnboarding} (h : w.onboarding.get merchantId = some o)
    (hs : o.state.status = .shadow) :
    (serve s env w (.webhook event pid)).onboarding.get merchantId =
      some (match s.shadowReport merchantId event with
        | some r => { o with observations := r.enter o.observations }
        | none => o) := by
  have quiet : s.shadowReport merchantId event = none →
      (serve s env w (.webhook event pid)).onboarding.get merchantId = some o →
      (serve s env w (.webhook event pid)).onboarding.get merchantId =
        some (match s.shadowReport merchantId event with
          | some r => { o with observations := r.enter o.observations }
          | none => o) := by
    intro hnone hget
    rw [hnone]
    exact hget
  have hprogram : s.program (.webhook event pid) = s.handleEvent event pid := rfl
  cases hb : event.body with
  | invoiceFailed payload =>
    cases hi : payload.invoice with
    | none =>
      refine quiet (by simp only [RecoveryCaseService.shadowReport, hb, hi]) ?_
      rw [serve, hprogram, RecoveryCaseService.handleEvent, hb]
      simp only [hi]
      exact h
    | some invoice =>
      have hserve : serve s env w (.webhook event pid) =
          ((s.handleFailure event payload invoice).exec (World.handle env) w).2 := by
        rw [serve, hprogram, RecoveryCaseService.handleEvent, hb]
        simp only [hi]
      cases ha : s.assignmentOf invoice payload.decline with
      | error message =>
        refine quiet (by simp only [RecoveryCaseService.shadowReport, hb, hi, ha]) ?_
        rw [hserve, (handleFailure_rejected s env event ha w).ends]
        exact h
      | ok a =>
        rw [hserve, handleFailure_onboarding env event ha, OnboardingStore.recordFailure,
          get_inShadow h hs]
        simp only [RecoveryCaseService.shadowReport, hb, hi, ha]
        split_ifs with hm
        · rfl
        · rfl
  | invoicePaid invoice =>
    cases invoice with
    | none =>
      refine quiet (by simp only [RecoveryCaseService.shadowReport, hb]) ?_
      rw [serve, hprogram, RecoveryCaseService.handleEvent, hb]
      exact h
    | some invoice =>
      have hserve : (serve s env w (.webhook event pid)).onboarding =
          w.onboarding.recordBaselineRecovery invoice.merchantId invoice.id := by
        rw [serve, hprogram, RecoveryCaseService.handleEvent, hb]
        rfl
      rw [hserve, OnboardingStore.recordBaselineRecovery, get_inShadow h hs]
      simp only [RecoveryCaseService.shadowReport, hb]
      split_ifs with hm
      · rfl
      · rfl
  | paymentReversed p =>
    refine quiet (by simp only [RecoveryCaseService.shadowReport, hb]) ?_
    rw [onboarding_of_move w pid (m := ⟨.caseReversed, netRecovered, p⟩) (by rw [hb]; rfl)]
    exact h
  | paymentReversalReverted p =>
    refine quiet (by simp only [RecoveryCaseService.shadowReport, hb]) ?_
    rw [onboarding_of_move w pid (m := ⟨.caseReversalReverted, netReversed, p⟩) (by rw [hb]; rfl)]
    exact h
  | _ =>
    refine quiet (by simp only [RecoveryCaseService.shadowReport, hb]) ?_
    rw [serve, hprogram, RecoveryCaseService.handleEvent, hb]
    exact h

/-! ## Deliveries in the window -/

variable (s env)

theorem RecoveryCaseService.shadowReports_concat (merchantId : String) (ds : List EventDelivery)
    (d : EventDelivery) : s.shadowReports merchantId (ds ++ [d]) =
      s.shadowReports merchantId ds ++ (s.shadowReport merchantId d.1).toList := by
  rw [shadowReports, List.filterMap_append, List.filterMap_cons, List.filterMap_nil]
  cases s.shadowReport merchantId d.1 <;> rfl

/-- The observations of a merchant are what the deliveries since it connected report of it. -/
theorem observations_after (w : World σ) (merchantId processor now : String)
    (ds : List EventDelivery) :
    ((w.connected merchantId processor now).delivered s env ds).onboarding.get merchantId =
      some ⟨beginOnboarding merchantId processor now,
        shadowObservations (s.shadowReports merchantId ds)⟩ := by
  induction ds using List.reverseRecOn with
  | nil => exact Map.get_set_self ..
  | append_singleton ds d ih =>
    obtain ⟨event, pid⟩ := d
    have hlast : (w.connected merchantId processor now).delivered s env (ds ++ [(event, pid)]) =
        serve s env ((w.connected merchantId processor now).delivered s env ds)
          (.webhook event pid) := by
      rw [World.delivered, List.map_append, serveAll_append]
      rfl
    rw [hlast, serve_onboarding _ event pid ih rfl, s.shadowReports_concat]
    cases s.shadowReport merchantId event with
    | none => simp only [Option.toList_none, List.append_nil]
    | some r => simp only [Option.toList_some, shadowObservations_concat]

/-- The same deliveries again: in any order, each at least as often. -/
def Redeliveries (ds ds' : List EventDelivery) : Prop := ds.Subperm ds' ∧ ds' ⊆ ds

/-- The observations of a merchant that has connected, after deliveries. -/
def observed (w : World σ) (merchantId processor now : String) (ds : List EventDelivery) :
    Map String ShadowObservation :=
  ((w.connected merchantId processor now).delivered s env ds).observations merchantId

/-- After both deliveries each invoice that was reported paid is counted as recovered by the
    baseline, and both have the same baseline. -/
def BaselineKept (w : World σ) (merchantId processor now : String)
    (ds ds' : List EventDelivery) : Prop :=
  (∀ i, .paid i ∈ s.shadowReports merchantId ds →
    Counted (observed s env w merchantId processor now ds) i ∧
      Counted (observed s env w merchantId processor now ds') i) ∧
  ∀ i, InBaseline (observed s env w merchantId processor now ds) i ↔
    InBaseline (observed s env w merchantId processor now ds') i

theorem observed_eq (w : World σ) (merchantId processor now : String) (ds : List EventDelivery) :
    observed s env w merchantId processor now ds =
      shadowObservations (s.shadowReports merchantId ds) := by
  rw [observed, World.observations, observations_after]
  rfl

variable {s env} {merchantId : String} {ds ds' : List EventDelivery}

/-- Redeliveries report the same. -/
theorem Redeliveries.mem_iff (h : Redeliveries ds ds') (r : ShadowReport) :
    r ∈ s.shadowReports merchantId ds ↔ r ∈ s.shadowReports merchantId ds' := by
  simp only [RecoveryCaseService.shadowReports, List.mem_filterMap]
  constructor
  · rintro ⟨d, hd, hr⟩
    exact ⟨d, h.1.subset hd, hr⟩
  · rintro ⟨d, hd, hr⟩
    exact ⟨d, h.2 hd, hr⟩

/-- The baseline is kept if the paid invoices have failed and then been paid, in both. -/
theorem baselineKept_iff (w : World σ) (processor now : String) (h : Redeliveries ds ds') :
    BaselineKept s env w merchantId processor now ds ds' ↔
      ∀ i, .paid i ∈ s.shadowReports merchantId ds →
        FailedThenPaid (s.shadowReports merchantId ds) i ∧
          FailedThenPaid (s.shadowReports merchantId ds') i := by
  simp only [BaselineKept, observed_eq, counted_iff, inBaseline_iff]
  constructor
  · rintro ⟨hpaid, -⟩
    exact hpaid
  · intro hpaid
    refine ⟨hpaid, fun i => ⟨?_, ?_⟩⟩
    · intro hi
      exact (hpaid i hi.mem).2
    · intro hi
      exact (hpaid i ((h.mem_iff _).2 hi.mem)).1

/-- A delivery reports a payment. -/
def ReportsPayment (s : RecoveryCaseService) (merchantId : String) (d : EventDelivery) : Bool :=
  match s.shadowReport merchantId d.1 with
  | some (.paid _) => true
  | _ => false

/-- The payments first. -/
def paymentsFirst (s : RecoveryCaseService) (merchantId : String) (ds : List EventDelivery) :
    List EventDelivery :=
  ds.filter (ReportsPayment s merchantId) ++ ds.filter fun d => !ReportsPayment s merchantId d

theorem paymentsFirst_perm (s : RecoveryCaseService) (merchantId : String)
    (ds : List EventDelivery) : (paymentsFirst s merchantId ds).Perm ds :=
  List.filter_append_perm ..

/-- If the payments come first, no invoice has failed and then been paid. -/
theorem not_failedThenPaid_paymentsFirst (i : String) :
    ¬ FailedThenPaid (s.shadowReports merchantId (paymentsFirst s merchantId ds)) i := by
  rintro ⟨pre, post, heq, ⟨r, hr, hfailed⟩, -⟩
  rw [paymentsFirst, RecoveryCaseService.shadowReports, List.filterMap_append] at heq
  rcases List.append_eq_append_iff.1 heq with ⟨mid, rfl, hrest⟩ | ⟨mid, hfirst, -⟩
  · -- the payment is among the rest
    have hpaid : .paid i ∈ List.filterMap (fun d => s.shadowReport merchantId d.1)
        (ds.filter fun d => !ReportsPayment s merchantId d) := by
      rw [hrest]
      exact List.mem_append_right _ List.mem_cons_self
    obtain ⟨d, hd, hreport⟩ := List.mem_filterMap.1 hpaid
    have hd := (List.mem_filter.1 hd).2
    simp only [ReportsPayment, hreport, Bool.not_true, Bool.false_eq_true] at hd
  · -- the failure is among the payments
    have hfail : r ∈ List.filterMap (fun d => s.shadowReport merchantId d.1)
        (ds.filter (ReportsPayment s merchantId)) := by
      rw [hfirst]
      exact List.mem_append_left _ hr
    obtain ⟨d, hd, hreport⟩ := List.mem_filterMap.1 hfail
    have hd := (List.mem_filter.1 hd).2
    cases r with
    | failed j code amount => simp only [ReportsPayment, hreport, Bool.false_eq_true] at hd
    | paid j => exact hfailed

/-- Deliveries that report what was paid do not keep the baseline, if they come again. -/
theorem exists_not_kept (w : World σ) (processor now : String) {i : String}
    (hi : .paid i ∈ s.shadowReports merchantId ds) :
    ∃ ds', Redeliveries ds ds' ∧ ¬ BaselineKept s env w merchantId processor now ds ds' := by
  have hperm := paymentsFirst_perm s merchantId ds
  have h : Redeliveries ds (paymentsFirst s merchantId ds) := ⟨hperm.symm.subperm, hperm.subset⟩
  refine ⟨_, h, ?_⟩
  intro hkept
  exact not_failedThenPaid_paymentsFirst i ((baselineKept_iff w processor now h).1 hkept i hi).2

variable (s env)

/-- Redeliveries keep the baseline if and only if every invoice that was paid has failed before a
    payment that no failure follows, in both; all redeliveries do if nothing was paid. -/
theorem baseline_kept_iff (w : World σ) (merchantId processor now : String)
    (ds : List EventDelivery) :
    (∀ ds', Redeliveries ds ds' →
      (BaselineKept s env w merchantId processor now ds ds' ↔
        ∀ i, .paid i ∈ s.shadowReports merchantId ds →
          FailedThenPaid (s.shadowReports merchantId ds) i ∧
            FailedThenPaid (s.shadowReports merchantId ds') i)) ∧
    ((∀ ds', Redeliveries ds ds' → BaselineKept s env w merchantId processor now ds ds') ↔
      ∀ i, .paid i ∉ s.shadowReports merchantId ds) := by
  refine ⟨fun ds' h => baselineKept_iff w processor now h, ?_, ?_⟩
  · intro hkept i hi
    obtain ⟨ds', h, hnot⟩ := exists_not_kept w processor now hi
    exact hnot (hkept ds' h)
  · intro hnone ds' h
    exact (baselineKept_iff w processor now h).2 fun i hi => absurd hi (hnone i)

end

namespace Sample

/-- The webhook of a failure of the invoice. -/
def failedDelivery : EventDelivery :=
  (event "1" (.invoiceFailed { invoice := some invoice, decline := some decline }), some "stripe")

/-- The webhook of its payment. -/
def paidDelivery : EventDelivery := (event "2" (.invoicePaid (some invoice)), some "stripe")

end Sample

/-- A failure that comes again after the payment takes the invoice out of the baseline; so does one
    that comes after it only. -/
theorem baseline_kept_fails :
    (Redeliveries [Sample.failedDelivery, Sample.paidDelivery]
        [Sample.failedDelivery, Sample.paidDelivery, Sample.failedDelivery] ∧
      ¬ BaselineKept Sample.service Sample.env Sample.world "mrc_1" "stripe"
        "2026-08-01T00:00:00.000Z" [Sample.failedDelivery, Sample.paidDelivery]
        [Sample.failedDelivery, Sample.paidDelivery, Sample.failedDelivery]) ∧
    (Redeliveries [Sample.failedDelivery, Sample.paidDelivery]
        [Sample.paidDelivery, Sample.failedDelivery] ∧
      ¬ BaselineKept Sample.service Sample.env Sample.world "mrc_1" "stripe"
        "2026-08-01T00:00:00.000Z" [Sample.failedDelivery, Sample.paidDelivery]
        [Sample.paidDelivery, Sample.failedDelivery]) := by
  have hfailed : Sample.service.shadowReport "mrc_1" Sample.failedDelivery.1 =
      some (.failed "inv_1" .insufficientFunds 100) := by decide +kernel
  have hpaid : Sample.service.shadowReport "mrc_1" Sample.paidDelivery.1 =
      some (.paid "inv_1") := rfl
  have missed : ∀ ds', Redeliveries [Sample.failedDelivery, Sample.paidDelivery] ds' →
      (shadowObservations (Sample.service.shadowReports "mrc_1" ds')).get "inv_1" =
        some ⟨.insufficientFunds, 100, false⟩ →
      ¬ BaselineKept Sample.service Sample.env Sample.world "mrc_1" "stripe"
        "2026-08-01T00:00:00.000Z" [Sample.failedDelivery, Sample.paidDelivery] ds' := by
    intro ds' h hget hkept
    have hmem : .paid "inv_1" ∈ Sample.service.shadowReports "mrc_1"
        [Sample.failedDelivery, Sample.paidDelivery] :=
      List.mem_filterMap.2 ⟨Sample.paidDelivery, by simp, hpaid⟩
    obtain ⟨o, ho, hrecovered⟩ :=
      inBaseline_iff.2 ((baselineKept_iff _ _ _ h).1 hkept "inv_1" hmem).2
    obtain rfl := Option.some.inj (hget.symm.trans ho)
    cases hrecovered
  have hagain : Redeliveries [Sample.failedDelivery, Sample.paidDelivery]
      [Sample.failedDelivery, Sample.paidDelivery, Sample.failedDelivery] :=
    ⟨(List.prefix_append [Sample.failedDelivery, Sample.paidDelivery]
      [Sample.failedDelivery]).sublist.subperm, by simp⟩
  have hlate : Redeliveries [Sample.failedDelivery, Sample.paidDelivery]
      [Sample.paidDelivery, Sample.failedDelivery] :=
    ⟨(List.Perm.swap _ _ _).subperm, by simp⟩
  refine ⟨⟨hagain, missed _ hagain ?_⟩, hlate, missed _ hlate ?_⟩
  all_goals
    simp only [RecoveryCaseService.shadowReports, List.filterMap_cons, List.filterMap_nil, hfailed,
      hpaid]
    rfl

end AX10M
