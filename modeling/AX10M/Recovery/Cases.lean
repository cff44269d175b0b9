/-
  The cases of a process: what a run of events leaves of the failures in it.

  A failure that is assigned is a case.  The first case of an invoice id has its
  assignment in the ledger, every treated case a plan and maybe a dispatch
  (`Traced`); no other event of a run touches these (`traced_run`).
-/
import AX10M.Logs.First
import AX10M.Recovery.Failure

namespace AX10M

open Js Effects Logs

/-- A failure with its assignment. -/
structure FailedCase where
  occurredAt : String
  payload : FailurePayload
  invoice : Invoice
  assignment : Assignment

namespace FailedCase

variable (c : FailedCase)

/-- The entry of its assignment. -/
def entry : LedgerEntry := assignedEntry c.invoice c.occurredAt c.assignment

def invoiceId : String := c.invoice.id

def treated : Bool := c.assignment.bucket = .treatment

@[simp] theorem entry_type : c.entry.type = .holdoutAssigned := rfl

@[simp] theorem entry_merchantId : c.entry.merchantId = c.invoice.merchantId := rfl

@[simp] theorem entry_invoiceId : c.entry.field "invoiceId" = some (.str c.invoice.id) := by
  simp [entry, assignedEntry, assignedDetail, LedgerEntry.field, Record.get_cons]

@[simp] theorem entry_customerId :
    c.entry.field "customerId" = some (.str c.invoice.customerId) := by
  simp [entry, assignedEntry, assignedDetail, LedgerEntry.field, Record.get_cons]

@[simp] theorem entry_stratumKey :
    c.entry.field "stratumKey" = some (.str c.assignment.stratumKey) := by
  simp [entry, assignedEntry, assignedDetail, LedgerEntry.field, Record.get_cons]

@[simp] theorem entry_amount :
    c.entry.field "amount" = some (.num c.invoice.amount.amount) := by
  simp [entry, assignedEntry, assignedDetail, LedgerEntry.field, Record.get_cons]

@[simp] theorem entry_currency :
    c.entry.field "currency" = some (.str c.invoice.amount.currency) := by
  simp [entry, assignedEntry, assignedDetail, LedgerEntry.field, Record.get_cons]

@[simp] theorem entry_bucket :
    c.entry.field "bucket" = some (.str c.assignment.bucket.text) := by
  simp [entry, assignedEntry, assignedDetail, LedgerEntry.field, Record.get_cons]

end FailedCase

namespace RecoveryCaseService

variable (s : RecoveryCaseService)

/-- The case of an event. -/
def failedCase (event : CanonicalEvent) : Option FailedCase :=
  match event.body with
  | .invoiceFailed payload => do
    let invoice ← payload.invoice
    let a ← (s.assignmentOf invoice payload.decline).toOption
    return ⟨event.occurredAt, payload, invoice, a⟩
  | _ => none

/-- The cases of a run. -/
def casesOf (events : List CanonicalEvent) : List FailedCase := events.filterMap s.failedCase

theorem failedCase_eq_some_iff {event : CanonicalEvent} {c : FailedCase} :
    s.failedCase event = some c ↔ event.body = .invoiceFailed c.payload ∧
      c.payload.invoice = some c.invoice ∧
      s.assignmentOf c.invoice c.payload.decline = .ok c.assignment ∧
      c.occurredAt = event.occurredAt := by
  unfold failedCase
  constructor
  · intro h
    split at h
    next payload hb =>
      obtain ⟨invoice, hi, h⟩ := Option.bind_eq_some_iff.1 h
      obtain ⟨a, ha, h⟩ := Option.bind_eq_some_iff.1 h
      obtain rfl := Option.some.inj h
      refine ⟨hb, hi, ?_, rfl⟩
      cases hx : s.assignmentOf invoice payload.decline with
      | ok a' =>
        rw [hx] at ha
        exact congrArg _ (Option.some.inj ha)
      | error m =>
        rw [hx] at ha
        cases ha
    next => cases h
  · rintro ⟨hb, hi, ha, ht⟩
    simp [hb, hi, ha, ← ht, Except.toOption]

theorem failedCase_eq_none {event : CanonicalEvent} (h : s.failedCase event = none) :
    (∀ p invoice, event.body = .invoiceFailed p → p.invoice ≠ some invoice) ∨
    ∃ p invoice m, event.body = .invoiceFailed p ∧ p.invoice = some invoice ∧
      s.assignmentOf invoice p.decline = .error m := by
  by_cases hf : ∃ p invoice, event.body = .invoiceFailed p ∧ p.invoice = some invoice
  · obtain ⟨p, invoice, hb, hi⟩ := hf
    cases ha : s.assignmentOf invoice p.decline with
    | error m => exact .inr ⟨p, invoice, m, hb, hi, ha⟩
    | ok a =>
      have hc : s.failedCase event = some ⟨event.occurredAt, p, invoice, a⟩ :=
        s.failedCase_eq_some_iff.2 ⟨hb, hi, ha, rfl⟩
      cases h.symm.trans hc
  · exact .inl fun p invoice hb hi => hf ⟨p, invoice, hb, hi⟩

end RecoveryCaseService

section

variable {σ : Type} (s : RecoveryCaseService) (env : Env σ)

/-- The event of a case is handled to its end. -/
theorem serve_case {event : CanonicalEvent} {c : FailedCase} (h : s.failedCase event = some c)
    (pid : Option String) (w : World σ) :
    Handled s c.payload c.occurredAt c.invoice c.assignment w
      (serve s env w (.webhook event pid)) := by
  obtain ⟨hb, hi, ha, ht⟩ := s.failedCase_eq_some_iff.1 h
  obtain ⟨w', hh, hrun⟩ := handleFailure_runs s env event ha w
  have hserve : serve s env w (.webhook event pid) = w' := by
    simp only [serve, RecoveryCaseService.program, RecoveryCaseService.handleEvent, hb, hi,
      hrun.ends]
  rw [hserve, ht]
  exact hh

/-- Other events pass. -/
theorem serve_passed {event : CanonicalEvent} (h : s.failedCase event = none)
    (pid : Option String) (w : World σ) : Passed w (serve s env w (.webhook event pid)) := by
  rcases s.failedCase_eq_none h with hq | ⟨p, invoice, m, hb, hi, ha⟩
  · obtain ⟨w', hrun, hp⟩ := handleEvent_quiet_runs s env hq pid w
    have hserve : serve s env w (.webhook event pid) = w' := by
      simp only [serve, RecoveryCaseService.program, hrun.ends]
    rw [hserve]
    exact hp
  · have hrun := handleFailure_rejected s env event ha w
    have hserve : serve s env w (.webhook event pid) = w := by
      simp only [serve, RecoveryCaseService.program, RecoveryCaseService.handleEvent, hb, hi,
        hrun.ends]
    rw [hserve]
    exact .refl w

/-! ## The trace of the cases -/

/-- The entry is of the type. -/
def ofType (type : LedgerEventType) (e : LedgerEntry) : Bool := e.type = type

/-- What the cases of a run leave. -/
structure Traced (cases : List FailedCase) (w : World σ) : Prop where
  opened : ∀ i, i ∈ w.openedInvoices ↔ ∃ c ∈ cases, c.invoiceId = i
  assigned : w.ledger.filter (ofType .holdoutAssigned) =
    (firsts FailedCase.invoiceId cases).map FailedCase.entry
  planned : List.Forall₂ (fun c e => Plans c.invoice c.payload.code e)
    (cases.filter FailedCase.treated) (w.ledger.filter (ofType .recoveryPlanned))
  dispatched : w.dispatched =
    cases.filterMap fun c => s.dispatchIn c.assignment.bucket c.payload c.invoice
  order : Preceded (fun e => e.type = .recoveryPlanned)
    (fun x y => x.type = .holdoutAssigned ∧ x.field "invoiceId" = y.field "invoiceId") w.ledger

theorem traced_init (policy : σ) (clock : ℕ → ℤ) : Traced s [] (World.init policy clock) where
  opened i := by simp [World.init]
  assigned := rfl
  planned := .nil
  dispatched := rfl
  order := preceded_nil

section

variable {cases : List FailedCase} {w : World σ}

/-- The assignments are those of the first cases of their ids. -/
theorem Traced.assigned_iff (h : Traced s cases w) {x : LedgerEntry} :
    (x ∈ w.ledger ∧ x.type = .holdoutAssigned) ↔
      ∃ c ∈ firsts FailedCase.invoiceId cases, c.entry = x := by
  rw [← List.mem_map, ← h.assigned, List.mem_filter]
  simp [ofType]

/-- The invoices that have an assignment are those of the cases. -/
theorem Traced.exists_assigned (h : Traced s cases w) {c : FailedCase} (hc : c ∈ cases) :
    ∃ x ∈ w.ledger, x.type = .holdoutAssigned ∧ x.field "invoiceId" = some (.str c.invoice.id) := by
  obtain ⟨b, hb, hid⟩ : ∃ b ∈ firsts FailedCase.invoiceId cases, b.invoiceId = c.invoiceId :=
    exists_first hc
  obtain ⟨hl, ht⟩ := (h.assigned_iff s).2 ⟨b, hb, rfl⟩
  refine ⟨b.entry, hl, ht, ?_⟩
  rw [b.entry_invoiceId]
  exact congrArg (fun i => some (Json.str i)) hid

/-- A treated case has a plan. -/
theorem Traced.exists_plan (h : Traced s cases w) {c : FailedCase} (hc : c ∈ cases)
    (ht : c.treated) : ∃ y ∈ w.ledger, Plans c.invoice c.payload.code y := by
  obtain ⟨y, hy, hp⟩ := exists_related h.planned (List.mem_filter.2 ⟨hc, ht⟩)
  exact ⟨y, (List.mem_filter.1 hy).1, hp⟩

/-- A plan is one of a treated case. -/
theorem Traced.exists_treated (h : Traced s cases w) {y : LedgerEntry} (hy : y ∈ w.ledger)
    (ht : y.type = .recoveryPlanned) :
    ∃ c ∈ cases, c.treated ∧ Plans c.invoice c.payload.code y := by
  obtain ⟨c, hc, hp⟩ := exists_relating h.planned
    (List.mem_filter.2 ⟨hy, by simp [ofType, ht]⟩)
  obtain ⟨hc, htr⟩ := List.mem_filter.1 hc
  exact ⟨c, hc, htr, hp⟩

end

/-- An event that passes. -/
theorem Traced.passed {cases : List FailedCase} {w w' : World σ} (h : Traced s cases w)
    (hp : Passed w w') : Traced s cases w' := by
  obtain ⟨added, hl, hadded⟩ := hp.ledger
  have hno : ∀ type, type ≠ .caseReversed → type ≠ .caseReversalReverted →
      w'.ledger.filter (ofType type) = w.ledger.filter (ofType type) := by
    intro type h₁ h₂
    have hnil : added.filter (ofType type) = [] := by
      refine List.filter_eq_nil_iff.2 fun e he ht => ?_
      have ht : e.type = type := by simpa [ofType] using ht
      rcases hadded e he with h' | h'
      · exact h₁ (ht.symm.trans h')
      · exact h₂ (ht.symm.trans h')
    rw [hl, List.filter_append, hnil, List.append_nil]
  refine ⟨?_, ?_, ?_, hp.dispatched.trans h.dispatched, ?_⟩
  · rw [hp.opened]
    exact h.opened
  · rw [hno _ (by decide) (by decide)]
    exact h.assigned
  · rw [hno _ (by decide) (by decide)]
    exact h.planned
  · rw [hl]
    refine h.order.append fun z hz hq => ?_
    rcases hadded z hz with h' | h'
    · cases hq.symm.trans h'
    · cases hq.symm.trans h'

/-- A plan is filtered as a plan. -/
theorem plansFor_filter {invoice : Invoice} {code : DeclineCode} {bucket : Bucket}
    {plans : List LedgerEntry} (h : PlansFor invoice code bucket plans) :
    plans.filter (ofType .holdoutAssigned) = [] ∧ plans.filter (ofType .recoveryPlanned) = plans := by
  cases bucket with
  | control =>
    obtain rfl : plans = [] := h
    exact ⟨rfl, rfl⟩
  | treatment =>
    obtain ⟨e, rfl, he⟩ := h
    simp [ofType, he.type]

/-- The event of one more case. -/
theorem Traced.handled {cases : List FailedCase} {w w' : World σ} (h : Traced s cases w)
    {c : FailedCase} (hc : Handled s c.payload c.occurredAt c.invoice c.assignment w w') :
    Traced s (cases ++ [c]) w' := by
  obtain ⟨plans, hplans, hl⟩ := hc.ledger
  obtain ⟨hfa, hfp⟩ := plansFor_filter hplans
  have hnew : w'.ledger = w.ledger ++ (if ∃ b ∈ cases, b.invoiceId = c.invoiceId then []
      else [c.entry]) ++ plans := by
    rw [hl]
    simp only [h.opened]
    rfl
  refine ⟨fun i => ?_, ?_, ?_, ?_, ?_⟩
  · rw [hc.opened, List.mem_insert_iff, h.opened i]
    simp only [List.mem_append, List.mem_singleton, or_and_right, exists_or, exists_eq_left]
    exact ⟨fun h => h.elim (fun h => .inr h.symm) .inl,
      fun h => h.elim .inr fun h => .inl h.symm⟩
  · rw [hnew, List.filter_append, List.filter_append, hfa, List.append_nil, h.assigned,
      firsts_concat]
    split_ifs
    · simp
    · simp [ofType]
  · have hopening : (if ∃ b ∈ cases, b.invoiceId = c.invoiceId then [] else [c.entry]).filter
        (ofType .recoveryPlanned) = [] := by
      split_ifs <;> simp [ofType]
    simp only [hnew, List.filter_append, hopening, List.append_nil, hfp]
    refine List.rel_append h.planned ?_
    cases hb : c.assignment.bucket with
    | control =>
      rw [hb] at hplans
      obtain rfl : plans = [] := hplans
      simp [FailedCase.treated, hb]
    | treatment =>
      rw [hb] at hplans
      obtain ⟨e, rfl, he⟩ := hplans
      simpa [FailedCase.treated, hb] using he
  · rw [hc.dispatched, h.dispatched, List.filterMap_append]
    congr 1
  · have hopening : Preceded (fun e => e.type = .recoveryPlanned)
        (fun x y => x.type = .holdoutAssigned ∧ x.field "invoiceId" = y.field "invoiceId")
        (w.ledger ++ if ∃ b ∈ cases, b.invoiceId = c.invoiceId then [] else [c.entry]) := by
      refine h.order.append fun z hz hq => ?_
      split_ifs at hz
      · cases hz
      · obtain rfl := List.mem_singleton.1 hz
        cases hq
    rw [hnew]
    refine hopening.append fun z hz _ => ?_
    have hz' : z.field "invoiceId" = some (.str c.invoice.id) := by
      cases hb : c.assignment.bucket with
      | control =>
        rw [hb] at hplans
        obtain rfl : plans = [] := hplans
        cases hz
      | treatment =>
        rw [hb] at hplans
        obtain ⟨e, rfl, he⟩ := hplans
        obtain rfl := List.mem_singleton.1 hz
        exact he.invoiceId
    split_ifs with hold
    · obtain ⟨b, hb, hid⟩ := hold
      obtain ⟨x, hx, ht, hi⟩ := h.exists_assigned s hb
      refine ⟨x, by simpa using hx, ht, ?_⟩
      rw [hi, hz']
      exact congrArg (fun i => some (Json.str i)) hid
    · exact ⟨c.entry, by simp, rfl, by rw [hz', c.entry_invoiceId]⟩

/-- A run of events leaves the trace of its cases. -/
theorem traced_run (policy : σ) (clock : ℕ → ℤ) (events : List (CanonicalEvent × Option String)) :
    Traced s (s.casesOf (events.map Prod.fst)) (serveAll s env (World.init policy clock)
      (events.map fun e => .webhook e.1 e.2)) := by
  induction events using List.reverseRecOn with
  | nil => exact traced_init s policy clock
  | append_singleton events e ih =>
    obtain ⟨event, pid⟩ := e
    simp only [List.map_append, List.map_cons, List.map_nil, serveAll_append, serveAll_cons,
      serveAll_nil, RecoveryCaseService.casesOf, List.filterMap_append] at ih ⊢
    cases hc : s.failedCase event with
    | none =>
      simp only [List.filterMap_cons, hc, List.filterMap_nil, List.append_nil]
      exact ih.passed s (serve_passed s env hc pid _)
    | some c =>
      simp only [List.filterMap_cons, hc, List.filterMap_nil]
      exact ih.handled s (serve_case s env hc pid _)

end

end AX10M
