/-
  What handling a failed invoice does, in full.

  The first delivery of an invoice to a process appends its assignment; every delivery
  of a treatment case is planned with the decline it carries, and dispatched if it has
  a payment method and dispatch is on.  `handleFailure_runs` says so of one failure,
  `handleEvents_dispatches` what the events of a webhook dispatch.
-/
import AX10M.Effects.Trace
import AX10M.Recovery.Ingest
import AX10M.Recovery.Opening

namespace AX10M

open Js Effects

/-- The entry of an assignment. -/
def assignedEntry (invoice : Invoice) (occurredAt : String) (a : Assignment) : LedgerEntry :=
  ⟨invoice.merchantId, .holdoutAssigned, occurredAt, assignedDetail invoice a⟩

/-- The decline code that a failure tells of. -/
def FailurePayload.code (p : FailurePayload) : DeclineCode :=
  (p.decline.map DeclineEvent.code).getD .unknown

/-- The entry is a plan for the invoice, made with the decline code. -/
structure Plans (invoice : Invoice) (code : DeclineCode) (e : LedgerEntry) : Prop where
  merchantId : e.merchantId = invoice.merchantId
  type : e.type = .recoveryPlanned
  invoiceId : e.field "invoiceId" = some (.str invoice.id)
  features : ∃ f : RecoveryFeatures, e.field "features" = some f.json ∧ f.declineCode = code

/-- The plans of a case: none in control, one in treatment. -/
def PlansFor (invoice : Invoice) (code : DeclineCode) : Bucket → List LedgerEntry → Prop
  | .control, l => l = []
  | .treatment, l => ∃ e, l = [e] ∧ Plans invoice code e

/-- A dispatch that is performed, with the status of its merchant at that moment. -/
def dispatchSeen {σ : Type} (e : Performed ServiceSig (World σ)) :
    Option (DurableRecoveryRequest × Option OnboardingStatus) :=
  match e.op with
  | .dispatch r => some (r, e.world.onboarding.status r.attempt.invoice.merchantId)
  | _ => none

namespace RecoveryCaseService

variable (s : RecoveryCaseService)

/-- The assignment of a failed invoice. -/
def assignmentOf (invoice : Invoice) (decline : Option DeclineEvent) : Except String Assignment :=
  assign s.sha256 ⟨invoice.merchantId, some invoice.customerId, invoice.id,
    deriveStratum invoice decline⟩ s.holdoutConfig

/-- What a failure in an arm is dispatched as. -/
def dispatchIn (bucket : Bucket) (payload : FailurePayload) (invoice : Invoice) :
    Option DurableRecoveryRequest :=
  match bucket, payload.method with
  | .treatment, some method =>
    if s.durableRecovery then
      some ⟨invoice.id,
        { invoice, method, decline := payload.decline, customer := payload.customer },
        !s.liveCharging⟩
    else none
  | _, _ => none

/-- What an event is dispatched as. -/
def dispatchOf (event : CanonicalEvent) : Option DurableRecoveryRequest :=
  match event.body with
  | .invoiceFailed payload =>
    match payload.invoice with
    | some invoice =>
      match s.assignmentOf invoice payload.decline with
      | .ok a => s.dispatchIn a.bucket payload invoice
      | .error _ => none
    | none => none
  | _ => none

/-- Only a failed invoice with a payment method, assigned to treatment, is dispatched, live if
    charging is. -/
theorem dispatchOf_eq_some {event : CanonicalEvent} {r : DurableRecoveryRequest}
    (h : s.dispatchOf event = some r) :
    ∃ payload invoice method a, event.body = .invoiceFailed payload ∧
      payload.invoice = some invoice ∧ payload.method = some method ∧
      s.assignmentOf invoice payload.decline = .ok a ∧ a.bucket = .treatment ∧
      r.attempt.invoice = invoice ∧ r.shadow = !s.liveCharging := by
  unfold dispatchOf at h
  split at h
  next payload hb =>
    split at h
    next invoice hi =>
      split at h
      next a ha =>
        unfold dispatchIn at h
        split at h
        next method hbk hm =>
          split_ifs at h
          obtain rfl := Option.some.inj h
          exact ⟨payload, invoice, method, a, hb, hi, hm, ha, hbk, rfl, rfl⟩
        next => cases h
      next => cases h
    next => cases h
  next => cases h

end RecoveryCaseService

section

variable {σ : Type} (s : RecoveryCaseService) (env : Env σ)

/-- What is different after a failure was handled. -/
structure Handled (payload : FailurePayload) (occurredAt : String) (invoice : Invoice)
    (a : Assignment) (w w' : World σ) : Prop where
  ledger : ∃ plans, PlansFor invoice payload.code a.bucket plans ∧
    w'.ledger = w.ledger ++ (if invoice.id ∈ w.openedInvoices then []
      else [assignedEntry invoice occurredAt a]) ++ plans
  opened : w'.openedInvoices = w.openedInvoices.insert invoice.id
  dispatched : w'.dispatched = w.dispatched ++ (s.dispatchIn a.bucket payload invoice).toList
  status : ∀ m, w'.onboarding.status m = w.onboarding.status m

/-- The operation is no dispatch. -/
def Undispatched : ServiceOp → Prop
  | .dispatch _ => False
  | _ => True

theorem dispatchSeen_undispatched (e : Performed ServiceSig (World σ)) (h : Undispatched e.op) :
    dispatchSeen e = none := by
  obtain ⟨o, r, w⟩ := e
  cases o with
  | dispatch r => exact h.elim
  | _ => rfl

theorem openCase_undispatched (invoice : Invoice) (stratum : Stratum) (occurredAt : String) :
    (s.openCase invoice stratum occurredAt).Uses Undispatched := by
  unfold RecoveryCaseService.openCase
  split
  · exact ⟨trivial, fun r => r.elim⟩
  · refine ⟨trivial, fun opened => ?_⟩
    cases opened
    · exact ⟨trivial, fun _ => ⟨trivial, fun _ => trivial⟩⟩
    · trivial

/-- What `openCase` does when appends succeed. -/
theorem openCase_runs {invoice : Invoice} {decline : Option DeclineEvent} {a : Assignment}
    (ha : s.assignmentOf invoice decline = .ok a) (occurredAt : String) (w : World σ) :
    Prog.Runs (World.handle env) dispatchSeen
      (s.openCase invoice (deriveStratum invoice decline) occurredAt) w [] (some a.bucket)
      { w with
        openedInvoices := w.openedInvoices.insert invoice.id
        ledger := w.ledger ++ if invoice.id ∈ w.openedInvoices then []
          else [assignedEntry invoice occurredAt a] } := by
  refine ⟨Prog.observed_of_uses dispatchSeen_undispatched (openCase_undispatched s _ _ _) w, ?_⟩
  have hop := openCase_exec s env ⟨invoice, deriveStratum invoice decline, occurredAt⟩ true w
  have ha' : assign s.sha256 (Opening.input ⟨invoice, deriveStratum invoice decline, occurredAt⟩)
      s.holdoutConfig = .ok a := ha
  rw [faulty_true, ha'] at hop
  refine hop.trans ?_
  by_cases ho : invoice.id ∈ w.openedInvoices
  · simp [ho]
  · simp [ho, assignedEntry]

/-- The entry of a plan. -/
def plannedEntry (invoice : Invoice) (occurredAt : String) (features : RecoveryFeatures)
    (decision : RecoveryDecision) : LedgerEntry where
  merchantId := invoice.merchantId
  type := .recoveryPlanned
  occurredAt
  detail := [("invoiceId", .str invoice.id), ("action", .str decision.action.text),
    ("retryAt", (decision.retryAt.map .str).getD .null),
    ("recoverabilityScore", .num decision.recoverabilityScore),
    ("expectedValueMinor", .num decision.expectedValueMinor),
    ("rationale", .str decision.rationale), ("features", features.json), ("shadow", .bool true)]

theorem plannedEntry_plans (invoice : Invoice) (occurredAt : String) (features : RecoveryFeatures)
    (decision : RecoveryDecision) :
    Plans invoice features.declineCode (plannedEntry invoice occurredAt features decision) where
  merchantId := rfl
  type := rfl
  invoiceId := by simp [plannedEntry, LedgerEntry.field, Record.get_cons]
  features := ⟨features, by simp [plannedEntry, LedgerEntry.field, Record.get_cons], rfl⟩

/-- A plan is recorded, whatever the engine decides. -/
theorem planRecovery_runs (invoice : Invoice) (payload : FailurePayload) (w : World σ) :
    ∃ plan decision clock, Plans invoice payload.code plan ∧
      Prog.Runs (World.handle env) dispatchSeen
        (RecoveryCaseService.planRecovery invoice payload.decline) w [] (some decision)
        { w with ledger := w.ledger ++ [plan], clock := clock } := by
  have huses : (RecoveryCaseService.planRecovery invoice payload.decline).Uses Undispatched :=
    ⟨trivial, fun _ => ⟨trivial, fun _ => ⟨trivial, fun _ => ⟨trivial, fun _ => ⟨trivial,
      fun _ => ⟨trivial, fun _ => ⟨trivial, fun _ => trivial⟩⟩⟩⟩⟩⟩⟩
  let features := w.featureStore.enrich env.featureStore {
    merchantId := invoice.merchantId
    customerId := invoice.customerId
    bin := none
    customerCreatedAt := none
    firstFailedAt := invoice.firstFailedAt
    declineCode := payload.code
    amountMinor := invoice.amount.amount
    currency := invoice.amount.currency
    attemptNumber := (w.attempts.get invoice.id).getD 0 + 1
    now := Date.toISOString (w.clock 0) }
  let decision := env.policy.decide w.policy features
    { now := Date.toISOString (w.clock 1), methods := [] }
  exact ⟨plannedEntry invoice (Date.toISOString (w.clock 2)) features decision, decision,
    fun n => w.clock (n + 3), plannedEntry_plans invoice _ features decision,
    Prog.observed_of_uses dispatchSeen_undispatched huses w, rfl⟩

/-- What follows once the arm of a failure is known. -/
def RecoveryCaseService.actOn (payload : FailurePayload) (invoice : Invoice) :
    Bucket → Async Unit
  | .control => return ()
  | .treatment => do
    let _ ← planRecovery invoice payload.decline
    match payload.method with
    | some method =>
      if s.durableRecovery then
        s.dispatchDurableRecovery invoice method payload.decline payload.customer
      else return ()
    | none => return ()

/-- A treatment case is planned, and dispatched or not. -/
theorem actOn_treatment (payload : FailurePayload) (invoice : Invoice) :
    (s.dispatchIn .treatment payload invoice = none ∧ s.actOn payload invoice .treatment =
      (RecoveryCaseService.planRecovery invoice payload.decline).bind fun _ => .pure ()) ∨
    ∃ r, s.dispatchIn .treatment payload invoice = some r ∧ s.actOn payload invoice .treatment =
      (RecoveryCaseService.planRecovery invoice payload.decline).bind fun _ =>
        call (.dispatch r) := by
  unfold RecoveryCaseService.dispatchIn RecoveryCaseService.actOn
  cases payload.method with
  | none => exact .inl ⟨rfl, rfl⟩
  | some method =>
    cases s.durableRecovery with
    | false => exact .inl ⟨rfl, rfl⟩
    | true => exact .inr ⟨_, rfl, rfl⟩

/-- What acting on an arm does. -/
structure Acted (payload : FailurePayload) (invoice : Invoice) (bucket : Bucket)
    (w w' : World σ) : Prop where
  ledger : ∃ plans, PlansFor invoice payload.code bucket plans ∧ w'.ledger = w.ledger ++ plans
  opened : w'.openedInvoices = w.openedInvoices
  dispatched : w'.dispatched = w.dispatched ++ (s.dispatchIn bucket payload invoice).toList
  onboarding : w'.onboarding = w.onboarding

theorem actOn_runs (payload : FailurePayload) (invoice : Invoice) (bucket : Bucket) (w : World σ) :
    ∃ w', Acted s payload invoice bucket w w' ∧
      Prog.Runs (World.handle env) dispatchSeen (s.actOn payload invoice bucket) w
        ((s.dispatchIn bucket payload invoice).toList.map fun r =>
          (r, w.onboarding.status r.attempt.invoice.merchantId)) (some ()) w' := by
  cases bucket with
  | control => exact ⟨w, ⟨⟨[], rfl, (List.append_nil _).symm⟩, rfl, (List.append_nil _).symm, rfl⟩,
      .pure ()⟩
  | treatment =>
    obtain ⟨plan, decision, clock, hplan, hrun⟩ := planRecovery_runs env invoice payload w
    have hplans : PlansFor invoice payload.code .treatment [plan] := ⟨plan, rfl, hplan⟩
    let v : World σ := { w with ledger := w.ledger ++ [plan], clock := clock }
    rcases actOn_treatment s payload invoice with ⟨hd, hact⟩ | ⟨r, hd, hact⟩
    · refine ⟨v, ⟨⟨[plan], hplans, rfl⟩, rfl, ?_, rfl⟩, ?_⟩
      · rw [hd]
        exact (List.append_nil _).symm
      · rw [hd, hact]
        exact hrun.bind (.pure ())
    · refine ⟨{ v with dispatched := w.dispatched ++ [r] }, ⟨⟨[plan], hplans, rfl⟩, rfl, ?_, rfl⟩, ?_⟩
      · rw [hd]
        rfl
      · rw [hd, hact]
        exact hrun.bind (.op rfl (.pure ()))

/-- A failure that is assigned is handled to its end. -/
theorem handleFailure_runs (event : CanonicalEvent) {payload : FailurePayload} {invoice : Invoice}
    {a : Assignment} (ha : s.assignmentOf invoice payload.decline = .ok a) (w : World σ) :
    ∃ w', Handled s payload event.occurredAt invoice a w w' ∧
      Prog.Runs (World.handle env) dispatchSeen (s.handleFailure event payload invoice) w
        ((s.dispatchIn a.bucket payload invoice).toList.map fun r =>
          (r, w.onboarding.status r.attempt.invoice.merchantId)) (some ()) w' := by
  have hopen := openCase_runs s env ha event.occurredAt w
  have hfail : s.handleFailure event payload invoice =
      (s.openCase invoice (deriveStratum invoice payload.decline) event.occurredAt).bind
        fun bucket => .op (.observe invoice.merchantId invoice.customerId event.occurredAt
          (payload.customer.map Customer.createdAt)) fun _ =>
        .op (.recordFailure invoice.merchantId invoice.id payload.code invoice.amount.amount)
          fun _ => s.actOn payload invoice bucket := rfl
  let v : World σ := { w with
    openedInvoices := w.openedInvoices.insert invoice.id
    ledger := w.ledger ++ if invoice.id ∈ w.openedInvoices then []
      else [assignedEntry invoice event.occurredAt a]
    featureStore := w.featureStore.observe invoice.merchantId invoice.customerId event.occurredAt
      (payload.customer.map Customer.createdAt)
    onboarding := w.onboarding.recordFailure invoice.merchantId invoice.id payload.code
      invoice.amount.amount }
  have hstatus : ∀ m, v.onboarding.status m = w.onboarding.status m :=
    w.onboarding.status_inShadow _ _
  obtain ⟨w', ⟨⟨plans, hplans, hledger⟩, hopened, hdispatched, honboarding⟩, hrun⟩ :=
    actOn_runs s env payload invoice a.bucket v
  refine ⟨w', ⟨⟨plans, hplans, hledger⟩, hopened, hdispatched, ?_⟩, ?_⟩
  · intro m
    rw [honboarding, hstatus]
  · simp only [hstatus] at hrun
    rw [hfail]
    exact hopen.bind (.op rfl (.op rfl hrun))

/-- A failure whose assignment is a range error changes nothing. -/
theorem handleFailure_rejected (event : CanonicalEvent) {payload : FailurePayload}
    {invoice : Invoice} {message : String}
    (ha : s.assignmentOf invoice payload.decline = .error message) (w : World σ) :
    Prog.Runs (World.handle env) dispatchSeen (s.handleFailure event payload invoice) w [] none
      w := by
  have ha' : assign s.sha256 ⟨invoice.merchantId, some invoice.customerId, invoice.id,
      deriveStratum invoice payload.decline⟩ s.holdoutConfig = .error message := ha
  rw [RecoveryCaseService.handleFailure, RecoveryCaseService.openCase, ha']
  exact .op_rejected rfl _

/-! ## Events and webhooks -/

/-- With a range error nothing is dispatched. -/
theorem dispatchOf_of_rejected {invoice : Invoice} {decline : Option DeclineEvent}
    {message : String} (h : s.assignmentOf invoice decline = .error message)
    (event : CanonicalEvent) : s.dispatchOf event = none := by
  cases hd : s.dispatchOf event with
  | none => rfl
  | some r =>
    obtain ⟨payload, invoice', method, a, -, -, -, ha, -⟩ := s.dispatchOf_eq_some hd
    unfold RecoveryCaseService.assignmentOf assign at h ha
    split_ifs at h with hr
    rw [if_pos hr] at ha
    cases ha

/-- What an event that opens no case leaves: more moves at most. -/
structure Passed (w w' : World σ) : Prop where
  ledger : Appended w.ledger (fun e => e.type = .caseReversed ∨ e.type = .caseReversalReverted) w'
  opened : w'.openedInvoices = w.openedInvoices
  dispatched : w'.dispatched = w.dispatched
  status : ∀ m, w'.onboarding.status m = w.onboarding.status m

theorem Passed.refl (w : World σ) : Passed w w := ⟨⟨[], by simp, by simp⟩, rfl, rfl, fun _ => rfl⟩

/-- Events that are no failures of an invoice dispatch nothing, and change no status. -/
theorem handleEvent_quiet_runs {event : CanonicalEvent}
    (h : ∀ p invoice, event.body = .invoiceFailed p → p.invoice ≠ some invoice)
    (pid : Option String) (w : World σ) :
    ∃ w', Prog.Runs (World.handle env) dispatchSeen (s.handleEvent event pid) w [] (some ()) w' ∧
      Passed w w' := by
  have hmove : ∀ {m : Move}, event.body.move = some m → ∃ w',
      Prog.Runs (World.handle env) dispatchSeen (s.handleEvent event pid) w [] (some ()) w' ∧
        Passed w w' := by
    intro m hm
    have huses : (m.record event.merchantId event.occurredAt pid).Uses Undispatched := by
      refine ⟨trivial, fun ledger => ?_⟩
      simp only [Prog.bind]
      split
      · trivial
      · exact ⟨trivial, fun _ => trivial⟩
    have htype : m.type = .caseReversed ∨ m.type = .caseReversalReverted := by
      rcases EventBody.move_eq_some hm with ⟨p, -, rfl⟩ | ⟨p, -, rfl⟩
      · exact .inl rfl
      · exact .inr rfl
    rw [handleEvent_move s hm]
    refine ⟨_, ⟨Prog.observed_of_uses dispatchSeen_undispatched huses w,
      m.record_exec env event.merchantId event.occurredAt pid w⟩, ?_⟩
    split
    · exact .refl w
    · exact ⟨⟨_, rfl, fun e he => List.mem_singleton.1 he ▸ htype⟩, rfl, rfl, fun _ => rfl⟩
  unfold RecoveryCaseService.handleEvent at *
  cases hb : event.body with
  | paymentReversed p => exact hb ▸ hmove (by rw [hb]; rfl)
  | paymentReversalReverted p => exact hb ▸ hmove (by rw [hb]; rfl)
  | invoiceFailed p =>
    cases hi : p.invoice with
    | none => exact ⟨w, by simp only [hi]; exact .pure (), .refl w⟩
    | some invoice => exact absurd hi (h p invoice hb)
  | invoicePaid invoice =>
    cases invoice with
    | none => exact ⟨w, .pure (), .refl w⟩
    | some invoice =>
      exact ⟨{ w with
          onboarding := w.onboarding.recordBaselineRecovery invoice.merchantId invoice.id },
        .op rfl (.pure ()), ⟨[], by simp, by simp⟩, rfl, rfl, w.onboarding.status_inShadow _ _⟩
  | _ => exact ⟨w, .pure (), .refl w⟩

/-- What an event dispatches; it changes no status, and if it is rejected, no event is
    dispatched. -/
theorem handleEvent_dispatches (event : CanonicalEvent) (pid : Option String) (w : World σ) :
    ∃ res w', Prog.Runs (World.handle env) dispatchSeen (s.handleEvent event pid) w
        ((s.dispatchOf event).toList.map fun r =>
          (r, w.onboarding.status r.attempt.invoice.merchantId)) res w' ∧
      (∀ m, w'.onboarding.status m = w.onboarding.status m) ∧
      (res = none → ∀ e, s.dispatchOf e = none) := by
  by_cases hf : ∃ invoice, Fails event invoice
  · obtain ⟨invoice, payload, hb, hi⟩ := hf
    simp only [RecoveryCaseService.handleEvent, RecoveryCaseService.dispatchOf, hb, hi]
    cases ha : s.assignmentOf invoice payload.decline with
    | error message =>
      exact ⟨none, w, handleFailure_rejected s env event ha w, fun _ => rfl,
        fun _ => dispatchOf_of_rejected s ha⟩
    | ok a =>
      obtain ⟨w', hh, hrun⟩ := handleFailure_runs s env event ha w
      exact ⟨some (), w', hrun, hh.status, fun h => by cases h⟩
  · have hq : ∀ p invoice, event.body = .invoiceFailed p → p.invoice ≠ some invoice :=
      fun p invoice hb hi => hf ⟨invoice, p, hb, hi⟩
    have hno : s.dispatchOf event = none := by
      cases hd : s.dispatchOf event with
      | none => rfl
      | some r =>
        obtain ⟨payload, invoice, -, -, hb, hi, -⟩ := s.dispatchOf_eq_some hd
        exact absurd hi (hq payload invoice hb)
    obtain ⟨w', hrun, hp⟩ := handleEvent_quiet_runs s env hq pid w
    rw [hno]
    exact ⟨some (), w', hrun, hp.status, fun h => by cases h⟩

/-- What the events of a webhook dispatch, one after the other; they change no status. -/
theorem handleEvents_dispatches (pid : String) (events : List CanonicalEvent) (w : World σ) :
    (s.handleEvents pid events).observed (World.handle env) dispatchSeen w =
        (events.filterMap s.dispatchOf).map (fun r =>
          (r, w.onboarding.status r.attempt.invoice.merchantId)) ∧
      ∀ m, ((s.handleEvents pid events).exec (World.handle env) w).2.onboarding.status m =
        w.onboarding.status m := by
  induction events generalizing w with
  | nil => exact ⟨rfl, fun _ => rfl⟩
  | cons e events ih =>
    obtain ⟨res, w', hrun, hs, hnone⟩ := handleEvent_dispatches s env e (some pid) w
    rw [RecoveryCaseService.handleEvents, Prog.bind_eq, Prog.observed_bind, Prog.exec_bind,
      hrun.sees, hrun.ends]
    cases res with
    | none =>
      have hno : (e :: events).filterMap s.dispatchOf = [] :=
        List.filterMap_eq_nil_iff.2 fun e' _ => hnone rfl e'
      exact ⟨by simp [hno, hnone rfl e], hs⟩
    | some u =>
      obtain ⟨ho, hst⟩ := ih w'
      refine ⟨?_, fun m => (hst m).trans (hs m)⟩
      simp only [ho, hs]
      cases hd : s.dispatchOf e <;> simp [hd]

end

end AX10M
