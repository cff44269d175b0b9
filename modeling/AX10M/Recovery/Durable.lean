/-
  The durable recovery of one invoice: deliveries of its failure, the workflow engine
  that runs its sagas, and the processor.

  The engine runs one workflow for an invoice at a time: while it runs, a second start
  is refused.  Once it has ended, a redelivery starts another one, whose attempts are
  numbered from 1 again and charged under the same idempotency keys.
-/
import AX10M.Recovery.Opening
import AX10M.Recovery.Outcome
import AX10M.Scheduler.Saga

namespace AX10M

open Js Effects

/-! ## The port of the sagas -/

/-- An outcome of the service in the words of the scheduler. -/
def mapAction : RecoveryActionOutcome → ExecutedAction
  | .attempted => .charged
  | .shadowed => .shadowed
  | .suppressed => .guardrailSuppressed
  | .suppress => .engineSuppressed
  | .cardUpdateComms => .cardUpdateComms

namespace ServiceRecoveryCasePort

/-- The `plan` activity. -/
def plan (input : AttemptInput) : Async RecoveryDecision :=
  RecoveryCaseService.planAttempt input.attempt.invoice (some input.attempt.method)
    input.attempt.decline input.attemptNumber

/-- The parameters of the `execute` activity. -/
def params (shadow : Bool) (input : AttemptInput) : ExecuteParams where
  invoice := input.attempt.invoice
  method := input.attempt.method
  decline := input.attempt.decline
  attemptNumber := input.attemptNumber
  localHour := input.attempt.localHour
  minutesSinceLastAttempt := input.attempt.minutesSinceLastAttempt
  customer := input.attempt.customer
  nowIso := input.nowIso
  shadow := shadow

/-- The `execute` activity. -/
def execute (s : RecoveryCaseService) (adapter : ProcessorAdapter) (shadow : Bool)
    (input : AttemptInput) : Async ExecuteResult := do
  let res ← s.executeRecovery adapter (params shadow input)
  return ⟨mapAction res.action, res.outcome, res.decision⟩

end ServiceRecoveryCasePort

/-! ## The system -/

/-- A running workflow: what is left of its saga, and how often its next activity was rejected. -/
structure Workflow where
  saga : Saga RecoverySagaResult
  rejections : ℕ := 0

/-- How often an activity is tried before its workflow fails. -/
def maximumAttempts : ℕ := 5

/-- The surroundings of the service, with the workflow of the invoice. -/
structure Durable (σ : Type) where
  world : World σ
  running : Option Workflow

/-- A delivery of the failure of an invoice. -/
structure Delivery (invoiceId : String) where
  event : CanonicalEvent
  payload : FailurePayload
  invoice : Invoice
  processorId : Option String := none
  body : event.body = .invoiceFailed payload
  carries : payload.invoice = some invoice
  about : invoice.id = invoiceId

inductive DurableStep (invoiceId : String) where
  /-- a delivery or redelivery -/
  | deliver (d : Delivery invoiceId)
  /-- the workflow goes on by an operation, at some time and with the processor as it is then -/
  | advance (time : String) (adapter : ProcessorAdapter)
  /-- a pending charge settles -/
  | settle (charge : ℕ)

section

variable {σ : Type} (s : RecoveryCaseService) (env : Env σ) (shadow : Bool) {i : String}

/-- A dispatch starts a workflow, unless one is running. -/
def startRecoveryWorkflow (running : Option Workflow) (r : DurableRecoveryRequest) :
    Option Workflow :=
  running.or (some { saga := runRecoverySaga r.attempt })

/-- A pending charge that has settled: the money has moved. -/
def ChargeCall.settle (c : ChargeCall) : ChargeCall :=
  if c.result.outcome = .pending then
    { c with result := { c.result with outcome := .succeeded }, moved := c.invoice.amount.amount }
  else c

namespace Durable

/-- The workflow goes on after an activity, or tries it again when it is rejected. -/
def after {α : Type} (run : Option α × World σ) (flow : Workflow)
    (k : α → Saga RecoverySagaResult) : Durable σ :=
  match run with
  | (some r, w) => ⟨w, some { saga := k r }⟩
  | (none, w) =>
    ⟨w, if flow.rejections + 1 < maximumAttempts then
      some { flow with rejections := flow.rejections + 1 } else none⟩

/-- The workflow performs its next operation. -/
def advance (D : Durable σ) (time : String) (adapter : ProcessorAdapter) (flow : Workflow) :
    Durable σ :=
  match flow.saga with
  | .pure _ => { D with running := none }
  | .op .now k => { D with running := some { saga := k time } }
  | .op (.sleepUntil _) k => { D with running := some { saga := k () } }
  | .op (.throw _) _ => { D with running := none }
  | .op (.plan input) k =>
    after ((ServiceRecoveryCasePort.plan input).exec (World.handle env) D.world) flow k
  | .op (.execute input) k =>
    after ((ServiceRecoveryCasePort.execute s adapter shadow input).exec (World.handle env) D.world)
      flow k

/-- The dispatches that a delivery added. -/
def added (w w' : World σ) : List DurableRecoveryRequest := w'.dispatched.drop w.dispatched.length

/-- One step of the system. -/
def step (D : Durable σ) : DurableStep i → Durable σ
  | .deliver d =>
    let w := serve s env D.world (.webhook d.event d.processorId)
    ⟨w, (added D.world w).foldl startRecoveryWorkflow D.running⟩
  | .advance time adapter =>
    match D.running with
    | some flow => D.advance s env shadow time adapter flow
    | none => D
  | .settle n =>
    { D with world := { D.world with charges := D.world.charges.modify n ChargeCall.settle } }

/-- A run of the system. -/
def run (D : Durable σ) (steps : List (DurableStep i)) : Durable σ :=
  steps.foldl (step s env shadow) D

/-- The system before anything has happened. -/
def init (policy : σ) (clock : ℕ → ℤ) : Durable σ := ⟨World.init policy clock, none⟩

end Durable

/-! ## Dispatches -/

/-- The delivery hands its case to a saga: dispatch is on, the event carries the method, and the
    customer is in treatment. -/
def Dispatches (d : Delivery i) : Prop :=
  s.durableRecovery ∧ d.payload.method.isSome ∧
    ∃ a, assign s.sha256 ⟨d.invoice.merchantId, some d.invoice.customerId, d.invoice.id,
      deriveStratum d.invoice d.payload.decline⟩ s.holdoutConfig = .ok a ∧ a.bucket = .treatment

/-- The operation is no dispatch. -/
def NoDispatch : ServiceOp → Prop
  | .dispatch _ => False
  | _ => True

theorem noDispatch_dispatched (o : ServiceOp) (w : World σ) (h : NoDispatch o) :
    (World.handle env o w).2.dispatched = w.dispatched := by
  cases o with
  | dispatch r => exact h.elim
  | attemptCharge a i m k =>
    simp only [World.handle]
    split <;> rfl
  | _ => rfl

theorem planAttempt_noDispatch (invoice : Invoice) (method : Option PaymentMethod)
    (decline : Option DeclineEvent) (n : ℕ) :
    (RecoveryCaseService.planAttempt invoice method decline n).Uses NoDispatch :=
  ⟨trivial, fun _ => ⟨trivial, fun _ => ⟨trivial, fun _ => ⟨trivial, fun _ => ⟨trivial,
    fun _ => ⟨trivial, fun _ => trivial⟩⟩⟩⟩⟩⟩

theorem program_deliver (d : Delivery i) :
    s.program (.webhook d.event d.processorId) = s.handleFailure d.event d.payload d.invoice := by
  simp only [RecoveryCaseService.program, RecoveryCaseService.handleEvent, d.body, d.carries]

/-- A delivery that does not hand its case over adds no dispatch. -/
theorem deliver_dispatched_of_not {d : Delivery i} (h : ¬ Dispatches s d) (w : World σ) :
    (serve s env w (.webhook d.event d.processorId)).dispatched = w.dispatched := by
  rw [serve, program_deliver, RecoveryCaseService.handleFailure, Prog.bind_eq, Prog.exec_bind,
    ← faulty_true, openCase_exec s env
      ⟨d.invoice, deriveStratum d.invoice d.payload.decline, d.event.occurredAt⟩ true w,
    faulty_true]
  cases ha : assign s.sha256 (Opening.input ⟨d.invoice, deriveStratum d.invoice d.payload.decline,
    d.event.occurredAt⟩) s.holdoutConfig with
  | error message => rfl
  | ok a =>
    simp only [if_true]
    obtain ⟨w₁, hw₁, hx⟩ : ∃ w₁ : World σ, w₁.dispatched = w.dispatched ∧
        (if d.invoice.id ∈ w.openedInvoices then (some a.bucket, w)
        else (some a.bucket, { w with
          openedInvoices := w.openedInvoices.insert d.invoice.id
          ledger := w.ledger ++ [⟨d.invoice.merchantId, .holdoutAssigned, d.event.occurredAt,
            assignedDetail d.invoice a⟩] })) = (some a.bucket, w₁) := by
      split <;> refine ⟨_, ?_, rfl⟩ <;> rfl
    rw [hx]
    refine (Prog.exec_frame World.dispatched (noDispatch_dispatched env) ?_ w₁).trans hw₁
    refine ⟨trivial, fun _ => ⟨trivial, fun _ => ?_⟩⟩
    cases hb : a.bucket with
    | control => trivial
    | treatment =>
      refine ⟨trivial, fun n => (planAttempt_noDispatch _ _ _ _).bind fun _ => ?_⟩
      cases hm : d.payload.method with
      | none => trivial
      | some m =>
        have hd : s.durableRecovery = false := by
          by_contra hd
          exact h ⟨by simpa using hd, by simp [hm], a, ha, hb⟩
        simp [hd]

/-- What a delivery dispatches is about its invoice. -/
theorem deliver_dispatched (d : Delivery i) (w : World σ) :
    ∀ r ∈ Durable.added w (serve s env w (.webhook d.event d.processorId)),
      r.attempt.invoice.id = i := by
  have hinv : ∃ new, (serve s env w (.webhook d.event d.processorId)).dispatched =
      w.dispatched ++ new ∧ ∀ r ∈ new, r.attempt.invoice = d.invoice := by
    rw [serve, program_deliver]
    refine Prog.exec_inv (fun w' : World σ => ∃ new, w'.dispatched = w.dispatched ++ new ∧
      ∀ r ∈ new, r.attempt.invoice = d.invoice) ?_
      (s.handleFailure_uses d.event d.payload d.invoice) ⟨[], by simp, by simp⟩
    rintro o w' ho ⟨new, hw', hnew⟩
    cases o with
    | dispatch r =>
      refine ⟨new ++ [r], by simp [World.handle, hw'], fun r' hr' => ?_⟩
      rcases List.mem_append.1 hr' with hr' | hr'
      · exact hnew r' hr'
      · rw [List.mem_singleton.1 hr']
        exact ho.2.1
    | attemptCharge a i m k =>
      refine ⟨new, ?_, hnew⟩
      simp only [World.handle]
      split <;> exact hw'
    | _ => exact ⟨new, hw', hnew⟩
  obtain ⟨new, hw, hnew⟩ := hinv
  intro r hr
  rw [Durable.added, hw, List.drop_left] at hr
  rw [hnew r hr, d.about]

/-! ## What is collected and what is recorded -/

/-- The recovered amounts are the money that moved, and no charge came after a success under its
    own key. -/
def Accounted (i : String) (w : World σ) : Prop :=
  amountOf w.ledger .caseRecovered i =
    ((w.charges.filter fun c => c.invoice.id = i).map ChargeCall.moved).sum ∧
  ∀ before c after, w.charges = before ++ c :: after → settled before c.key = false

/-- No charge has succeeded. -/
def Unsuccessful (charges : List ChargeCall) : Prop :=
  ∀ c ∈ charges, c.result.outcome ≠ .succeeded ∧ c.moved = 0

/-- The books before a charge succeeds. -/
def Owing (b : Books) : Prop := Unsuccessful b.charges ∧ b.recoveries = []

/-- The books once a charge has succeeded: it is the last one, and it is recorded. -/
def Settled (i : String) (b : Books) : Prop :=
  ∃ charges c e, b.charges = charges ++ [c] ∧ Unsuccessful charges ∧ c.invoice.id = i ∧
    c.result.outcome = .succeeded ∧ b.recoveries = [e] ∧ e.isFor i ∧ e.amount = c.moved

theorem settled_of_unsuccessful {charges : List ChargeCall} (h : Unsuccessful charges)
    (key : String) : settled charges key = false := by
  rw [settled, List.any_eq_false]
  intro c hc
  simp [(h c hc).1]

theorem amountOf_recoveriesOf (ledger : List LedgerEntry) (i : String) :
    amountOf ledger .caseRecovered i = amountOf (World.recoveriesOf ledger) .caseRecovered i := by
  rw [amountOf, amountOf, World.recoveriesOf, List.filter_filter]
  congr 2
  ext e
  simp

theorem Owing.accounted {w : World σ} (h : Owing w.books) : Accounted i w := by
  obtain ⟨hc, hr⟩ := h
  change Unsuccessful w.charges at hc
  change World.recoveriesOf w.ledger = [] at hr
  refine ⟨?_, fun before c after he => ?_⟩
  · rw [amountOf_recoveriesOf, hr, amountOf_nil, List.sum_eq_zero]
    intro x hx
    obtain ⟨c, hcm, rfl⟩ := List.mem_map.1 hx
    exact (hc c (List.mem_filter.1 hcm).1).2
  · refine settled_of_unsuccessful (fun c' hc' => hc c' ?_) _
    rw [he]
    exact List.mem_append_left _ hc'

theorem Settled.accounted {w : World σ} (h : Settled i w.books) : Accounted i w := by
  obtain ⟨charges, c, e, hc, hu, hi, ho, hr, he, ha⟩ := h
  change w.charges = charges ++ [c] at hc
  change World.recoveriesOf w.ledger = [e] at hr
  have ht : e.type = .caseRecovered := by
    have : e ∈ World.recoveriesOf w.ledger := by simp [hr]
    simpa using (List.mem_filter.1 this).2
  refine ⟨?_, fun before c' after hs => ?_⟩
  · have hzero : ((charges.filter fun c => c.invoice.id = i).map ChargeCall.moved).sum = 0 := by
      refine List.sum_eq_zero fun x hx => ?_
      obtain ⟨c', hcm, rfl⟩ := List.mem_map.1 hx
      exact (hu c' (List.mem_filter.1 hcm).1).2
    rw [amountOf_recoveriesOf, hr, amountOf_singleton, if_pos ⟨he, ht⟩, hc, List.filter_append,
      List.map_append, List.sum_append, hzero]
    simp [hi, ha]
  · have hlen : before.length ≤ charges.length := by
      have := congrArg List.length (hc.symm.trans hs)
      simp at this
      omega
    have hwhole : before <+: charges ++ [c] := ⟨c' :: after, by rw [← hs, hc]⟩
    have hpre : before <+: charges :=
      List.prefix_of_prefix_length_le hwhole (List.prefix_append _ _) hlen
    exact settled_of_unsuccessful (fun c'' hc'' => hu c'' (hpre.subset hc'')) _

/-- Before a success, the money that a charge moves is the invoice's amount if it succeeds. -/
theorem processorCharge_moved {charges : List ChargeCall} (h : Unsuccessful charges)
    {adapter : ProcessorAdapter} {invoice : Invoice} {m : PaymentMethod} {key : String}
    {c : ChargeCall} (hc : processorCharge charges adapter invoice m key = some c) :
    c.moved = if c.result.outcome = .succeeded then invoice.amount.amount else 0 := by
  rw [processorCharge, settled_of_unsuccessful h, if_neg Bool.false_ne_true] at hc
  obtain ⟨r, -, rfl⟩ := Option.map_eq_some_iff.1 hc
  rfl

/-- A charge of the invoice keeps to that. -/
theorem owing_rule (adapter : ProcessorAdapter) (p : ExecuteParams) (hp : p.invoice.id = i) :
    ChargeRule s adapter p Owing (Settled i) fun _ => True where
  before _ _ := trivial
  after _ _ := trivial
  charged _ _ _ _ _ := ⟨trivial, fun _ _ => trivial⟩
  failed b m c h hc ho key t := by
    refine ⟨fun c' hc' => ?_, h.2⟩
    rcases List.mem_append.1 hc' with hc' | hc'
    · exact h.1 c' hc'
    · rw [List.mem_singleton.1 hc', processorCharge_moved h.1 hc, if_neg ho]
      exact ⟨ho, rfl⟩
  recovered b m c h hc ho key t e he := by
    obtain ⟨t', rfl⟩ := he
    refine ⟨b.charges, c, _, rfl, h.1, ?_, ho, congrArg (· ++ [_]) h.2, ?_, ?_⟩
    · rw [(processorCharge_invoice hc).1, hp]
    · rw [LedgerEntry.isFor_iff]
      simp [LedgerEntry.field, recoveredDetail, Record.get_cons, hp]
    · rw [processorCharge_moved h.1 hc, if_pos ho]
      simp [LedgerEntry.amount, LedgerEntry.field, recoveredDetail, Record.get_cons]

/-! ## Runs -/

/-- Until a charge succeeds, the workflow works on the invoice, and stops on a success. -/
def Eager (i : String) (flow : Workflow) : Prop :=
  flow.saga.Until Recovers Idle ∧ flow.saga.Uses (Concerns i)

/-- The state of the case of the invoice: nothing is collected yet, or the one success is recorded
    and the workflow, if there still is one, is only finishing. -/
def CaseState (i : String) (D : Durable σ) : Prop :=
  (Owing D.world.books ∧ ∀ flow ∈ D.running, Eager i flow) ∨
  (Settled i D.world.books ∧ ∀ flow ∈ D.running, flow.saga.Uses Idle)

/-- The step is in time: a delivery that starts a saga finds nothing collected, and no pending
    charge settles after its saga. -/
def Timely (D : Durable σ) : DurableStep i → Prop
  | .deliver d => Dispatches s d → D.running = none → Uncollected D.world.charges i
  | .advance _ _ => True
  | .settle n => ∀ c ∈ D.world.charges[n]?, c.result.outcome ≠ .pending

theorem startRecoveryWorkflow_running (flow : Workflow) (rs : List DurableRecoveryRequest) :
    rs.foldl startRecoveryWorkflow (some flow) = some flow := by
  induction rs with
  | nil => rfl
  | cons r rs ih => exact ih

/-- The first of the dispatches starts a workflow, if none is running. -/
theorem startRecoveryWorkflow_none {rs : List DurableRecoveryRequest} {flow : Workflow}
    (h : flow ∈ rs.foldl startRecoveryWorkflow none) :
    ∃ r ∈ rs, flow = { saga := runRecoverySaga r.attempt } := by
  cases rs with
  | nil => simp at h
  | cons r rs =>
    change flow ∈ rs.foldl startRecoveryWorkflow (some { saga := runRecoverySaga r.attempt }) at h
    rw [startRecoveryWorkflow_running, Option.mem_some_iff] at h
    exact ⟨r, List.mem_cons_self, h.symm⟩

theorem runRecoverySaga_eager {attempt : SagaAttempt} (h : attempt.invoice.id = i) :
    Eager i { saga := runRecoverySaga attempt } :=
  ⟨Saga.attempts_until _ _ _ _ _, h ▸ Saga.attempts_concerns _ _ _ _ _⟩

theorem Settled.collected {b : Books} (h : Settled i b) : ¬ Uncollected b.charges i := by
  obtain ⟨charges, c, e, hc, -, hi, ho, -⟩ := h
  exact fun hu => hu c (by simp [hc]) hi ho

theorem caseState_deliver {D : Durable σ} {d : Delivery i} (hD : CaseState i D)
    (ht : Timely s D (.deliver d)) : CaseState i (D.step s env shadow (.deliver d)) := by
  have hb : (serve s env D.world (.webhook d.event d.processorId)).books = D.world.books := by
    rcases serve_books s env D.world (.webhook d.event d.processorId) with h | ⟨_, _, h⟩
    · exact h
    · cases h
  simp only [Durable.step, CaseState, hb]
  cases hr : D.running with
  | some flow =>
    rw [startRecoveryWorkflow_running, ← hr]
    exact hD
  | none =>
    by_cases hd : Dispatches s d
    · have howing : Owing D.world.books := by
        rcases hD with h | h
        · exact h.1
        · exact absurd (ht hd hr) h.1.collected
      refine .inl ⟨howing, fun flow hflow => ?_⟩
      obtain ⟨r, hmem, rfl⟩ := startRecoveryWorkflow_none hflow
      exact runRecoverySaga_eager (deliver_dispatched s env d D.world r hmem)
    · have hnone : Durable.added D.world (serve s env D.world (.webhook d.event d.processorId)) =
          [] := by
        rw [Durable.added, deliver_dispatched_of_not s env hd, List.drop_length]
      rw [hnone]
      exact hD.imp (fun h => ⟨h.1, by simp⟩) fun h => ⟨h.1, by simp⟩

theorem caseState_settle {D : Durable σ} {n : ℕ} (hD : CaseState i D)
    (ht : Timely s D (.settle n : DurableStep i)) :
    CaseState i (D.step s env shadow (.settle n : DurableStep i)) := by
  have hc : D.world.charges.modify n ChargeCall.settle = D.world.charges := by
    refine List.ext_getElem? fun k => ?_
    rw [List.getElem?_modify]
    split
    next hk =>
      subst hk
      cases hget : D.world.charges[n]? with
      | none => rfl
      | some c =>
        have := ht c hget
        simp [ChargeCall.settle, this]
    next => simp
  simp only [Durable.step, hc]
  exact hD

theorem CaseState.ended {w : World σ} (h : Owing w.books ∨ Settled i w.books) :
    CaseState i ⟨w, none⟩ :=
  h.imp (fun h => ⟨h, by simp⟩) fun h => ⟨h, by simp⟩

theorem CaseState.eager {w : World σ} {flow : Workflow} (h : Owing w.books) (hf : Eager i flow) :
    CaseState i ⟨w, some flow⟩ :=
  .inl ⟨h, by simpa using hf⟩

theorem CaseState.finishing {w : World σ} {flow : Workflow} (h : Settled i w.books)
    (hf : flow.saga.Uses Idle) : CaseState i ⟨w, some flow⟩ :=
  .inr ⟨h, by simpa using hf⟩

/-- After an activity the workflow goes on, or is where it was, or has failed. -/
theorem caseState_after {α : Type} {run : Option α × World σ} {flow : Workflow}
    {k : α → Saga RecoverySagaResult} (hflow : Eager i flow)
    (hok : ∀ a w, run = (some a, w) → CaseState i ⟨w, some { saga := k a }⟩)
    (hrejected : ∀ w, run = (none, w) → Owing w.books) :
    CaseState i (Durable.after run flow k) := by
  obtain ⟨_ | a, w⟩ := run
  · simp only [Durable.after]
    split
    · exact .eager (hrejected w rfl) hflow
    · exact .ended (.inl (hrejected w rfl))
  · exact hok a w rfl

theorem plan_books {run : Option RecoveryDecision × World σ} {w : World σ} {input : AttemptInput}
    (h : (ServiceRecoveryCasePort.plan input).exec (World.handle env) w = run) :
    run.2.books = w.books :=
  h ▸ Prog.exec_frame World.books (quiet_books env) (planAttempt_quiet _ _ _ _) w

/-- An execution that succeeds says so, and settles the case. -/
theorem execute_books {w : World σ} (hw : Owing w.books) (adapter : ProcessorAdapter)
    {input : AttemptInput} (hi : input.attempt.invoice.id = i) :
    match (ServiceRecoveryCasePort.execute s adapter shadow input).exec (World.handle env) w with
    | (some r, w') => (Recovers (.execute input) r ∧ Settled i w'.books) ∨
        (¬ Recovers (.execute input) r ∧ Owing w'.books)
    | (none, w') => Owing w'.books := by
  have h := executeRecovery_rule env
    (owing_rule s adapter (ServiceRecoveryCasePort.params shadow input) hi) hw
  rw [ServiceRecoveryCasePort.execute, Prog.bind_eq, Prog.exec_bind]
  generalize (s.executeRecovery adapter (ServiceRecoveryCasePort.params shadow input)).exec
    (World.handle env) w = run at h
  obtain ⟨_ | out, w'⟩ := run
  · exact h
  · obtain ⟨hfits, hbooks⟩ := h
    split at hbooks
    next ho =>
      have ha : out.action = .attempted := hfits.2 (by simp [ho])
      exact .inl ⟨⟨by simp [mapAction, ha], ho⟩, hbooks⟩
    next ho => exact .inr ⟨fun hr => ho hr.2, hbooks⟩

theorem caseState_advance {D : Durable σ} {flow : Workflow} (hr : D.running = some flow)
    (hD : CaseState i D) (time : String) (adapter : ProcessorAdapter) :
    CaseState i (D.advance s env shadow time adapter flow) := by
  unfold CaseState at hD
  simp only [hr, Option.mem_some_iff, forall_eq'] at hD
  obtain ⟨saga, rejections⟩ := flow
  cases saga with
  | pure result => exact .ended (hD.imp And.left And.left)
  | op o k =>
    rcases hD with ⟨howing, heager⟩ | ⟨hsettled, hidle⟩
    · obtain ⟨huntil, huses⟩ := heager
      have next : ∀ r, Eager i { saga := k r } := fun r => ⟨(huntil r).1, huses.2 r⟩
      cases o with
      | now => exact .eager howing (next time)
      | sleepUntil target => exact .eager howing (next ())
      | throw message => exact .ended (.inl howing)
      | plan input =>
        refine caseState_after ⟨huntil, huses⟩ (fun r w h => .eager ?_ (next r)) fun w h => ?_
        · rw [plan_books env h]
          exact howing
        · rw [plan_books env h]
          exact howing
      | execute input =>
        have h := execute_books s env shadow howing adapter huses.1
        refine caseState_after ⟨huntil, huses⟩ (fun r w hrun => ?_) fun w hrun => ?_
        · rw [hrun] at h
          rcases h with ⟨hrec, hbooks⟩ | ⟨-, hbooks⟩
          · exact .finishing hbooks ((huntil r).2 hrec)
          · exact .eager hbooks (next r)
        · rw [hrun] at h
          exact h
    · cases o with
      | now => exact .finishing hsettled (hidle.2 time)
      | _ => exact hidle.1.elim

theorem caseState_step {D : Durable σ} {st : DurableStep i} (hD : CaseState i D)
    (ht : Timely s D st) : CaseState i (D.step s env shadow st) := by
  cases st with
  | deliver d => exact caseState_deliver s env shadow hD ht
  | settle n => exact caseState_settle s env shadow hD ht
  | advance time adapter =>
    simp only [Durable.step]
    cases hr : D.running with
    | none => exact hD
    | some flow => exact caseState_advance s env shadow hr hD time adapter

/-- Redeliveries of a failure recover the money once: in every run whose steps are in time, the
    recovered amounts are the money that moved, and no charge is answered as the replay of an
    older one. -/
theorem redelivered_failure (policy : σ) (clock : ℕ → ℤ) (steps : List (DurableStep i))
    (h : ∀ before st after, steps = before ++ st :: after →
      Timely s ((Durable.init policy clock).run s env shadow before) st) :
    ∀ before after, steps = before ++ after →
      Accounted i ((Durable.init policy clock).run s env shadow before).world := by
  intro before after he
  suffices hs : CaseState i ((Durable.init policy clock).run s env shadow before) from
    hs.elim (fun h => h.1.accounted) fun h => h.1.accounted
  -- on the run so far: every step keeps the state of the case
  induction before using List.reverseRecOn generalizing after with
  | nil => exact .inl ⟨⟨by simp [Unsuccessful, Durable.run, Durable.init, World.books, World.init],
      rfl⟩, by simp [Durable.run, Durable.init]⟩
  | append_singleton before st ih =>
    have hrun : (Durable.init policy clock).run s env shadow (before ++ [st]) =
        ((Durable.init policy clock).run s env shadow before).step s env shadow st :=
      List.foldl_concat ..
    rw [hrun]
    refine caseState_step s env shadow (ih (st :: after) (by simp [he])) (h before st after ?_)
    simp [he]

end

/-- A delivery of the failure of the sample invoice. -/
def Sample.delivery : Delivery "inv_1" where
  event := Sample.event "fail_1" (.invoiceFailed
    { invoice := some Sample.invoice, decline := some Sample.decline, method := some Sample.method })
  payload :=
    { invoice := some Sample.invoice, decline := some Sample.decline, method := some Sample.method }
  invoice := Sample.invoice
  body := rfl
  carries := rfl
  about := rfl

/-- A delivery and the saga it starts, which the processor answers with success. -/
def Sample.recovery (time : String) : List (DurableStep "inv_1") :=
  .deliver Sample.delivery :: List.replicate 8 (.advance time Sample.stripe)

/-- The system after some steps, with live charging. -/
def Sample.durable (steps : List (DurableStep "inv_1")) : Durable Unit :=
  (Durable.init () fun _ => 1786881600000).run Sample.service Sample.env false steps

/-- The failure of the sample invoice is recovered once. -/
theorem redelivered_failure_sample :
    Accounted "inv_1" (Sample.durable (Sample.recovery "2026-08-16T12:00:00.000Z")).world := by
  refine redelivered_failure Sample.service Sample.env false () (fun _ => 1786881600000)
    (Sample.recovery "2026-08-16T12:00:00.000Z") ?_ _ [] (List.append_nil _).symm
  intro before st after h
  rcases before with _ | ⟨b, before⟩
  · obtain rfl : DurableStep.deliver Sample.delivery = st := (List.cons.inj h).1
    exact fun _ _ c hc => absurd hc List.not_mem_nil
  · have hst : st ∈ List.replicate 8 (DurableStep.advance "2026-08-16T12:00:00.000Z"
        Sample.stripe) := by
      rw [(List.cons.inj h).2]
      simp
    rw [List.eq_of_mem_replicate hst]
    trivial

/-- The failure arrives again after its saga has ended: the charge is answered as a replay, no
    money moves, and a second recovery is recorded. -/
theorem redelivered_failure_fails :
    let D := Sample.durable (Sample.recovery "2026-08-16T12:00:00.000Z" ++
      Sample.recovery "2026-08-17T12:00:00.000Z")
    amountOf D.world.ledger .caseRecovered "inv_1" = 200 ∧
      (D.world.charges.map ChargeCall.moved).sum = 100 ∧ ¬ Accounted "inv_1" D.world := by
  intro D
  obtain ⟨h1, h2, h3⟩ : amountOf D.world.ledger .caseRecovered "inv_1" = 200 ∧
      (D.world.charges.map ChargeCall.moved).sum = 100 ∧
      D.world.charges.filter (fun c => c.invoice.id = "inv_1") = D.world.charges := by
    decide +kernel
  refine ⟨h1, h2, fun h => ?_⟩
  have := h.1
  rw [h1, h3, h2] at this
  norm_num at this

end AX10M
