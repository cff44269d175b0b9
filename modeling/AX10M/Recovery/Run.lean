/-
  Runs of the service: webhook events and the activities of the sagas, handled one
  after the other, and what they append to the ledger.
-/
import AX10M.Recovery.Footprint
import AX10M.Recovery.World
import Mathlib.Algebra.BigOperators.Group.List.Lemmas
import Mathlib.Algebra.Order.Ring.Rat

namespace AX10M

open Js Effects

/-- What the service is asked to do. -/
inductive Request where
  /-- an event of a webhook, by the processor it came from -/
  | webhook (event : CanonicalEvent) (processorId : Option String)
  /-- the `plan` activity of a saga -/
  | plan (invoice : Invoice) (method : Option PaymentMethod) (decline : Option DeclineEvent)
      (attemptNumber : ℕ)
  /-- the `execute` activity of a saga -/
  | execute (adapter : ProcessorAdapter) (p : ExecuteParams)

section

variable {σ : Type} (s : RecoveryCaseService) (env : Env σ)

/-- The code that serves a request. -/
def RecoveryCaseService.program : Request → Async Unit
  | .webhook event processorId => s.handleEvent event processorId
  | .plan invoice method decline n => do
    let _ ← RecoveryCaseService.planAttempt invoice method decline n
  | .execute adapter p => do let _ ← s.executeRecovery adapter p

/-- Serve a request. -/
def serve (w : World σ) (r : Request) : World σ := ((s.program r).exec (World.handle env) w).2

/-- Serve requests one after the other. -/
def serveAll (w : World σ) (rs : List Request) : World σ := rs.foldl (serve s env) w

@[simp] theorem serveAll_nil (w : World σ) : serveAll s env w [] = w := rfl

@[simp] theorem serveAll_cons (w : World σ) (r : Request) (rs : List Request) :
    serveAll s env w (r :: rs) = serveAll s env (serve s env w r) rs := rfl

theorem serveAll_append (w : World σ) (rs rs' : List Request) :
    serveAll s env w (rs ++ rs') = serveAll s env (serveAll s env w rs) rs' :=
  List.foldl_append

/-- What every request keeps, runs keep. -/
theorem serveAll_inv {P : Request → Prop} {I : World σ → Prop}
    (h : ∀ w r, P r → I w → I (serve s env w r)) {rs : List Request} (hrs : ∀ r ∈ rs, P r)
    {w : World σ} (hw : I w) : I (serveAll s env w rs) := by
  induction rs generalizing w with
  | nil => exact hw
  | cons r rs ih =>
    exact ih (fun r' hr' => hrs r' (List.mem_cons_of_mem _ hr'))
      (h w r (hrs r List.mem_cons_self) hw)

/-! ## What a case appends -/

/-- An entry the case of an invoice appends: an entry of one of the types about the invoice, for
    its merchant; a recovery has the invoice's amount. -/
def CaseEntry (invoice : Invoice) (types : List LedgerEventType) (e : LedgerEntry) : Prop :=
  e.merchantId = invoice.merchantId ∧ e.field "invoiceId" = some (.str invoice.id) ∧
    e.type ∈ types ∧
    (e.type = .caseRecovered → e.field "amount" = some (.num invoice.amount.amount))

namespace CaseEntry

variable {invoice : Invoice} {types : List LedgerEventType} {e : LedgerEntry}

theorem isFor (h : CaseEntry invoice types e) (i : String) :
    e.isFor i = decide (invoice.id = i) := by
  simp [LedgerEntry.isFor, h.2.1]

theorem amount (h : CaseEntry invoice types e) (he : e.type = .caseRecovered) :
    e.amount = invoice.amount.amount := by
  rw [LedgerEntry.amount, h.2.2.2 he, num_num]

end CaseEntry

/-- The ledger is a longer one, all of whose new entries satisfy `P`. -/
def Appended (ledger : List LedgerEntry) (P : LedgerEntry → Prop) (w : World σ) : Prop :=
  ∃ added, w.ledger = ledger ++ added ∧ ∀ e ∈ added, P e

/-- A program of a case only appends entries of the case. -/
theorem appended_of_uses {α : Type} {invoice : Invoice} {types : List LedgerEventType}
    {attempt : Option ℕ} {p : Async α} (hp : p.Uses (CaseOp s invoice types attempt))
    (w : World σ) :
    Appended w.ledger (CaseEntry invoice types) (p.exec (World.handle env) w).2 := by
  refine Prog.exec_inv (Appended w.ledger (CaseEntry invoice types)) ?_ hp ⟨[], by simp, by simp⟩
  rintro o w' ho ⟨added, hw, hadded⟩
  cases o with
  | ledgerAppend e =>
    obtain ⟨hm, hi, ht, hr⟩ := ho
    refine ⟨added ++ [e], by simp [World.handle, hw], fun e' he' => ?_⟩
    rcases List.mem_append.1 he' with he' | he'
    · exact hadded e' he'
    · obtain rfl := List.mem_singleton.1 he'
      exact ⟨hm, hi, ht, fun h => (hr h).1⟩
  | attemptCharge a i m k =>
    refine ⟨added, ?_, hadded⟩
    simp only [World.handle]
    split <;> exact hw
  | _ => exact ⟨added, hw, hadded⟩

/-! ## Moves -/

/-- What reversals and reinstatements have in common: an entry of the type, with the amount of the
    payload as far as the cap lets it. -/
structure Move where
  type : LedgerEventType
  cap : List LedgerEntry → String → ℚ
  payload : ReversalPayload

/-- The move that an event tells of. -/
def EventBody.move : EventBody → Option Move
  | .paymentReversed p => some ⟨.caseReversed, netRecovered, p⟩
  | .paymentReversalReverted p => some ⟨.caseReversalReverted, netReversed, p⟩
  | _ => none

/-- There are two kinds of moves. -/
theorem EventBody.move_eq_some {b : EventBody} {m : Move} (h : b.move = some m) :
    (∃ p, b = .paymentReversed p ∧ m = ⟨.caseReversed, netRecovered, p⟩) ∨
      ∃ p, b = .paymentReversalReverted p ∧ m = ⟨.caseReversalReverted, netReversed, p⟩ := by
  cases b with
  | paymentReversed p => exact .inl ⟨p, rfl, (Option.some.inj h).symm⟩
  | paymentReversalReverted p => exact .inr ⟨p, rfl, (Option.some.inj h).symm⟩
  | _ => cases h

namespace Move

variable (m : Move) (merchantId occurredAt : String) (processorId : Option String)

/-- Record a move. -/
def record : Async Unit := do
  let cap := m.cap (← call .ledgerAll) m.payload.invoiceId
  if cap ≤ 0 then return ()
  else
    let amount := min m.payload.amount cap
    call (.ledgerAppend ⟨merchantId, m.type, occurredAt,
      reversalDetail m.payload processorId amount⟩)

/-- A move appends an entry of its capped amount, if something is left under the cap. -/
theorem record_exec (w : World σ) :
    (m.record merchantId occurredAt processorId).exec (World.handle env) w =
      (some (), if m.cap w.ledger m.payload.invoiceId ≤ 0 then w else
        { w with ledger := w.ledger ++ [⟨merchantId, m.type, occurredAt,
          reversalDetail m.payload processorId
            (min m.payload.amount (m.cap w.ledger m.payload.invoiceId))⟩] }) := by
  simp only [record, call, Prog.bind_eq, Prog.op_bind, Prog.pure_bind, Prog.pure_eq,
    World.exec_ledgerAll]
  split <;> rfl

end Move

/-- An event that tells of a move has it recorded. -/
theorem handleEvent_move {event : CanonicalEvent} {m : Move} (h : event.body.move = some m)
    (pid : Option String) :
    s.handleEvent event pid = m.record event.merchantId event.occurredAt pid := by
  rcases EventBody.move_eq_some h with ⟨p, hb, rfl⟩ | ⟨p, hb, rfl⟩
  · simp only [RecoveryCaseService.handleEvent, hb]
    rfl
  · simp only [RecoveryCaseService.handleEvent, hb]
    rfl

/-- The invoice a request is about, with the kinds of entries it may append; reversals, whose
    amounts depend on the ledger, and events without an invoice have none. -/
def Request.caseOf : Request → Option (Invoice × List LedgerEventType)
  | .webhook event _ =>
    match event.body with
    | .invoiceFailed payload => payload.invoice.map fun i =>
        (i, RecoveryCaseService.failureTypes)
    | _ => none
  | .plan invoice _ _ _ => some (invoice, [.recoveryPlanned])
  | .execute _ p => some (p.invoice, executeTypes)

/-- The attempt that a request may charge. -/
def Request.attempt : Request → Option ℕ
  | .execute _ p => some p.attemptNumber
  | _ => none

/-- The operation notes a payment in the profile of a merchant. -/
def Notes : ServiceOp → Prop
  | .recordBaselineRecovery _ _ => True
  | _ => False

/-- What the code that serves a request does: it works on a case, or records a move, or notes a
    payment at most. -/
theorem program_cases (r : Request) :
    (∃ invoice types, r.caseOf = some (invoice, types) ∧
      (s.program r).Uses (CaseOp s invoice types r.attempt)) ∨
    (∃ event pid m, r = .webhook event pid ∧ event.body.move = some m) ∨
    (r.caseOf = none ∧ (s.program r).Uses Notes) := by
  cases r with
  | webhook event pid =>
    cases hb : event.body with
    | paymentReversed p => exact .inr (.inl ⟨event, pid, _, rfl, by rw [hb]; rfl⟩)
    | paymentReversalReverted p => exact .inr (.inl ⟨event, pid, _, rfl, by rw [hb]; rfl⟩)
    | invoiceFailed payload =>
      cases hi : payload.invoice with
      | none =>
        refine .inr (.inr ⟨by simp [Request.caseOf, hb, hi], ?_⟩)
        simp only [RecoveryCaseService.program, RecoveryCaseService.handleEvent, hb, hi]
        trivial
      | some invoice =>
        refine .inl ⟨invoice, RecoveryCaseService.failureTypes,
          by simp [Request.caseOf, hb, hi], ?_⟩
        simp only [RecoveryCaseService.program, RecoveryCaseService.handleEvent, hb, hi]
        exact s.handleFailure_uses event payload invoice
    | invoicePaid invoice =>
      refine .inr (.inr ⟨by simp [Request.caseOf, hb], ?_⟩)
      simp only [RecoveryCaseService.program, RecoveryCaseService.handleEvent, hb]
      cases invoice with
      | none => trivial
      | some invoice => exact ⟨trivial, fun _ => trivial⟩
    | _ =>
      refine .inr (.inr ⟨by simp [Request.caseOf, hb], ?_⟩)
      simp only [RecoveryCaseService.program, RecoveryCaseService.handleEvent, hb]
      trivial
  | plan invoice method decline n =>
    exact .inl ⟨invoice, _, rfl,
      (s.planAttempt_uses invoice method decline n).bind fun _ => Prog.uses_pure _ ()⟩
  | execute adapter p =>
    exact .inl ⟨p.invoice, _, rfl,
      (s.executeRecovery_uses adapter p).bind fun _ => Prog.uses_pure _ ()⟩

/-- Serving a move. -/
theorem serve_move (w : World σ) {event : CanonicalEvent} (pid : Option String) {m : Move}
    (h : event.body.move = some m) :
    serve s env w (.webhook event pid) =
      if m.cap w.ledger m.payload.invoiceId ≤ 0 then w else
        { w with ledger := w.ledger ++ [⟨event.merchantId, m.type, event.occurredAt,
          reversalDetail m.payload pid
            (min m.payload.amount (m.cap w.ledger m.payload.invoiceId))⟩] } := by
  rw [serve, RecoveryCaseService.program, handleEvent_move s h, Move.record_exec]

/-- A case writes no reversals. -/
theorem Request.caseOf_types {r : Request} {invoice : Invoice} {types : List LedgerEventType}
    (h : r.caseOf = some (invoice, types)) :
    .caseReversed ∉ types ∧ .caseReversalReverted ∉ types := by
  cases r with
  | webhook event pid =>
    cases hb : event.body <;> simp [Request.caseOf, hb] at h
    obtain ⟨-, -, -, rfl⟩ := h
    decide
  | plan invoice' method decline n =>
    simp only [Request.caseOf, Option.some.injEq, Prod.mk.injEq] at h
    obtain ⟨-, rfl⟩ := h
    decide
  | execute adapter p =>
    simp only [Request.caseOf, Option.some.injEq, Prod.mk.injEq] at h
    obtain ⟨-, rfl⟩ := h
    decide

/-- What serving a request does to the ledger. -/
theorem serve_ledger (w : World σ) (r : Request) :
    (∃ invoice types added, r.caseOf = some (invoice, types) ∧
      (serve s env w r).ledger = w.ledger ++ added ∧ ∀ e ∈ added, CaseEntry invoice types e) ∨
    (∃ event pid m, r = .webhook event pid ∧ event.body.move = some m) ∨
    (r.caseOf = none ∧ (serve s env w r).ledger = w.ledger) := by
  rcases program_cases s r with ⟨invoice, types, hc, hp⟩ | hm | ⟨hc, hp⟩
  · obtain ⟨added, hl, hadded⟩ := appended_of_uses s env hp w
    exact .inl ⟨invoice, types, added, hc, hl, hadded⟩
  · exact .inr (.inl hm)
  · refine .inr (.inr ⟨hc, Prog.exec_frame World.ledger (fun o w' ho => ?_) hp w⟩)
    cases o with
    | recordBaselineRecovery m i => rfl
    | _ => exact ho.elim

end

/-! ## A small shop -/

namespace Sample

/-- SHA-256 on the texts the examples hash. -/
def sha256 : Digest := fun text =>
  ([("ax10m-holdout-v1:mrc_1:cus_1",
      "67ed510a488641abb39313fd810ded78717102bf9ddeb12ac36ef9d333f9c85e"),
    ("ax10m-holdout-v1:mrc_2:cus_1",
      "2809b1b0fd65c66b550b8bc7d4172f70513c414aec8511d71ffc040b037a7282"),
    ("mrc_1:inv_1:pm_1:1",
      "95fd1f4a03e13cffeee180167c5be2f4a5976da14b2e59f4de08a77983253767")].lookup text).getD ""

/-- A service with live charging. -/
def service : RecoveryCaseService := { sha256, durableRecovery := true, liveCharging := true }

def invoice : Invoice where
  id := "inv_1"
  customerId := "cus_1"
  merchantId := "mrc_1"
  processorRef := "in_1"
  amount := ⟨100, "USD"⟩
  status := .open
  createdAt := "2026-08-14T00:00:00.000Z"

def method : PaymentMethod where
  id := "pm_1"
  customerId := "cus_1"
  processorRef := "pm_ref_1"
  token := "tok_1"
  brand := some "visa"

def decline : DeclineEvent where
  id := "dec_1"
  invoiceId := "inv_1"
  chargeAttemptId := "att_0"
  code := .insufficientFunds
  family := .soft
  occurredAt := "2026-08-16T12:00:00.000Z"

/-- A processor that accepts every new charge. -/
def stripe : ProcessorAdapter where
  id := "stripe"
  respond _ _ _ := some { outcome := .succeeded }
  fetchUpdatedCard _ := some none
  listPaymentMethods _ := some []

/-- A policy that retries at once, and surroundings without messages. -/
def env : Env Unit where
  policy := {
    decide := fun _ _ ctx => { action := .retry, retryAt := some ctx.now,
                               recoverabilityScore := 3 / 5, expectedValueMinor := 81,
                               rationale := "retry" }
    update := fun _ _ _ _ => () }
  featureStore := defaultFeatureStoreConfig
  compose _ := none
  send _ _ _ := { status := .dryRun, provider := "dry-run" }

/-- The world before anything has happened, on 2026-08-16 at noon. -/
def world : World Unit := World.init () fun _ => 1786881600000

/-- The first attempt on the invoice. -/
def attempt : ExecuteParams where
  invoice := invoice
  method := method
  decline := some decline
  attemptNumber := 1
  nowIso := some "2026-08-16T12:00:00.000Z"
  shadow := false

/-- An event about the invoice. -/
def event (id : String) (body : EventBody) : CanonicalEvent where
  id := "evt_" ++ id
  merchantId := "mrc_1"
  processorEventId := id
  occurredAt := "2026-08-17T00:00:00.000Z"
  body := body

/-- A reversal of some amount of the invoice, or its undoing. -/
def reversal (amount : ℚ) : ReversalPayload := ⟨"inv_1", amount, "USD", .chargeback, none⟩

end Sample

end AX10M
