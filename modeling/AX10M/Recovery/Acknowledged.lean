/-
  Webhooks that are acknowledged, and webhooks that are redelivered until they are.

  A try to ingest a webhook may be cut off at an operation of its handlers, and is acknowledged if
  it is not.  Then all of its events have been handled; but an event whose look-up failed is not
  one of them (`handlesAll_iff`).  What a try has handled before it was cut off is handled again
  by the next one: the totals are those of all completed events in turn (`sameTotals_redeliver`),
  and those of one delivery if whatever is handled beyond it finds nothing left
  (`heldNet_redeliver`).
-/
import AX10M.Poal.GoCardless
import AX10M.Poal.Stripe
import AX10M.Recovery.Chargebacks

namespace AX10M

open Js Effects

/-! ## Tries -/

section

variable {σ : Type} (s : RecoveryCaseService) (env : Env σ) (processorId : String)

/-- Try to ingest a webhook, cut off at an operation of its handlers, if one is rejected: whether it
    is acknowledged, and the world after it. -/
def tryIngest (w : World σ) (ingested : Ingested) (cut : Option ℕ) : Bool × World σ :=
  let (r, w') := (s.ingestWithAdapter processorId ingested).cutOff (World.handle env) cut w
  (cut.isNone && r.isSome, w')

/-- Tries one after the other. -/
def redeliver (w : World σ) (tries : List (Ingested × Option ℕ)) : World σ :=
  tries.foldl (fun w t => (tryIngest s env processorId w t.1 t.2).2) w

/-- The events whose handling is completed: those before the first that is rejected or cut off. -/
def completed (w : World σ) (cut : Option ℕ) : List CanonicalEvent → List CanonicalEvent
  | [] => []
  | e :: es =>
    let p := s.handleEvent e (some processorId)
    let n := p.ops (World.handle env) w
    let (r, w') := p.exec (World.handle env) w
    if r.isSome ∧ cut.all (n ≤ ·) then e :: completed w' (cut.map (· - n)) es else []

/-- The events that a try completes. -/
def completedBy (w : World σ) (t : Ingested × Option ℕ) : List CanonicalEvent :=
  match t.1 with
  | .error _ => []
  | .ok events => completed s env processorId w t.2 events

/-- The events that tries complete, one try after the other. -/
def completedAll (w : World σ) : List (Ingested × Option ℕ) → List CanonicalEvent
  | [] => []
  | t :: ts => completedBy s env processorId w t ++
      completedAll (tryIngest s env processorId w t.1 t.2).2 ts

/-- The requests of events. -/
def requests (events : List CanonicalEvent) : List Request :=
  events.map fun e => .webhook e (some processorId)

/-- The reversals and reinstatements among events. -/
def reversals (events : List CanonicalEvent) : List Request :=
  (requests processorId events).filter Request.isReversal

/-- An acknowledged webhook has been handled to its end. -/
theorem tryIngest_acked {w : World σ} {ingested : Ingested} {cut : Option ℕ}
    (h : (tryIngest s env processorId w ingested cut).1 = true) :
    cut = none ∧ ∃ events, ingested = .ok events ∧
      (s.handleEvents processorId events).exec (World.handle env) w =
        (some (), (tryIngest s env processorId w ingested cut).2) := by
  cases cut with
  | some n => simp [tryIngest] at h
  | none =>
    cases ingested with
    | error message => simp [tryIngest, RecoveryCaseService.ingestWithAdapter, Prog.cutOff,
        Prog.exec_op, World.handle] at h
    | ok events =>
      refine ⟨rfl, events, rfl, ?_⟩
      simp only [tryIngest, RecoveryCaseService.ingestWithAdapter, Prog.cutOff, Option.isNone_none,
        Bool.true_and, Option.isSome_iff_exists] at h
      obtain ⟨⟨⟩, hr⟩ := h
      exact Prod.ext hr rfl

/-- A webhook that was handled to its end has all of its events completed. -/
theorem completed_of_exec {events : List CanonicalEvent} {w w' : World σ}
    (h : (s.handleEvents processorId events).exec (World.handle env) w = (some (), w')) :
    completed s env processorId w none events = events := by
  induction events generalizing w with
  | nil => rfl
  | cons e events ih =>
    rw [RecoveryCaseService.handleEvents, Prog.bind_eq, Prog.exec_bind] at h
    rw [completed]
    rcases hr : (s.handleEvent e (some processorId)).exec (World.handle env) w with ⟨_ | r, v⟩ <;>
      rw [hr] at h
    · simp at h
    · simp only [Option.isSome_some, Option.all_none, and_self, if_true, Option.map_none]
      rw [ih h]

end

/-! ## Totals -/

/-- Two ledgers have the same totals of what is recovered, reversed and reinstated. -/
structure SameTotals (l l' : List LedgerEntry) : Prop where
  recovered : ∀ i, amountOf l .caseRecovered i = amountOf l' .caseRecovered i
  reversed : ∀ i, amountOf l .caseReversed i = amountOf l' .caseReversed i
  reverted : ∀ i, amountOf l .caseReversalReverted i = amountOf l' .caseReversalReverted i

namespace SameTotals

variable {l l' l'' : List LedgerEntry}

theorem refl (l : List LedgerEntry) : SameTotals l l := ⟨fun _ => rfl, fun _ => rfl, fun _ => rfl⟩

theorem symm (h : SameTotals l l') : SameTotals l' l :=
  ⟨fun i => (h.recovered i).symm, fun i => (h.reversed i).symm, fun i => (h.reverted i).symm⟩

theorem trans (h : SameTotals l l') (h' : SameTotals l' l'') : SameTotals l l'' :=
  ⟨fun i => (h.recovered i).trans (h'.recovered i), fun i => (h.reversed i).trans (h'.reversed i),
    fun i => (h.reverted i).trans (h'.reverted i)⟩

theorem heldNet (h : SameTotals l l') (i : String) : heldNet l i = heldNet l' i := by
  rw [AX10M.heldNet, AX10M.heldNet, h.recovered, h.reversed, h.reverted]

end SameTotals

/-- The operation moves no totals. -/
def LeavesTotals : ServiceOp → Prop
  | .ledgerAppend e => e.type ∉ [.caseRecovered, .caseReversed, .caseReversalReverted]
  | _ => True

section

variable {σ : Type} (s : RecoveryCaseService) (env : Env σ) (processorId : String)

theorem SameBooks.sameTotals {w w' : World σ} (h : SameBooks w w') :
    SameTotals w.ledger w'.ledger :=
  ⟨h.2 _, h.2 _, h.2 _⟩

theorem sameTotals_op {l : List LedgerEntry} {o : ServiceOp} {w : World σ} (ho : LeavesTotals o)
    (h : SameTotals l w.ledger) : SameTotals l (World.handle env o w).2.ledger := by
  cases o with
  | ledgerAppend e =>
    simp only [LeavesTotals, List.mem_cons, List.not_mem_nil, or_false, not_or] at ho
    obtain ⟨h1, h2, h3⟩ := ho
    constructor <;> intro i
    · simp [World.handle, amountOf_singleton, h1, h.recovered]
    · simp [World.handle, amountOf_singleton, h2, h.reversed]
    · simp [World.handle, amountOf_singleton, h3, h.reverted]
  | attemptCharge a i m k =>
    simp only [World.handle]
    split <;> exact h
  | _ => exact h

/-- An event that is no reversal moves no totals. -/
theorem handleEvent_leaves {e : CanonicalEvent} {pid : Option String}
    (h : Request.isReversal (.webhook e pid) = false) : (s.handleEvent e pid).Uses LeavesTotals := by
  rcases program_cases s (.webhook e pid) with ⟨invoice, types, hc, hp⟩ | hm | ⟨-, hp⟩
  · refine hp.imp fun o ho => ?_
    cases o with
    | ledgerAppend entry =>
      obtain ⟨-, -, ht, -⟩ := ho
      obtain rfl : types = RecoveryCaseService.failureTypes := by
        cases hb : e.body <;> simp [Request.caseOf, hb] at hc
        exact hc.2.symm
      simp only [RecoveryCaseService.failureTypes, List.mem_cons, List.not_mem_nil, or_false] at ht
      rcases ht with ht | ht <;> simp [LeavesTotals, ht]
    | _ => trivial
  · rw [isReversal_iff.2 hm] at h
    cases h
  · refine hp.imp fun o ho => ?_
    cases o with
    | ledgerAppend entry => exact ho.elim
    | _ => trivial

/-- What a reversal does to the totals depends on the totals only. -/
theorem sameTotals_reversal {w w' : World σ} {r : Request} (hr : r.isReversal)
    (h : SameTotals w.ledger w'.ledger) :
    SameTotals (serve s env w r).ledger (serve s env w' r).ledger := by
  obtain ⟨event, pid, m, rfl, hm⟩ := isReversal_iff.1 hr
  have hcap : ∀ i, m.cap w.ledger i = m.cap w'.ledger i := by
    intro i
    rcases EventBody.move_eq_some hm with ⟨p, -, rfl⟩ | ⟨p, -, rfl⟩
    · show netRecovered w.ledger i = netRecovered w'.ledger i
      rw [netRecovered_eq, netRecovered_eq, h.recovered, h.reversed]
    · show netReversed w.ledger i = netReversed w'.ledger i
      rw [netReversed_eq, netReversed_eq, h.reversed, h.reverted]
  constructor <;> intro i <;>
    simp only [amountOf_serve_move s env _ pid hm, hcap, h.recovered, h.reversed, h.reverted]

theorem sameTotals_other (w : World σ) {e : CanonicalEvent} {pid : Option String}
    (h : Request.isReversal (.webhook e pid) = false) :
    SameTotals w.ledger (serve s env w (.webhook e pid)).ledger :=
  Prog.exec_inv (fun v : World σ => SameTotals w.ledger v.ledger)
    (fun _ _ ho hv => sameTotals_op env ho hv) (handleEvent_leaves s h) (SameTotals.refl _)

/-- Only the reversals among events move the totals. -/
theorem sameTotals_reversals {w w' : World σ} (h : SameTotals w.ledger w'.ledger)
    (events : List CanonicalEvent) :
    SameTotals (serveAll s env w (requests processorId events)).ledger
      (serveAll s env w' (reversals processorId events)).ledger := by
  refine foldl_purge (fun v v' : World σ => SameTotals v.ledger v'.ledger) ?_ ?_ h
  · intro r _ hr v v' hv
    exact sameTotals_reversal s env hr hv
  · intro r hr hrev v v' hv
    obtain ⟨e, -, rfl⟩ := List.mem_map.1 hr
    exact (sameTotals_other s env v (Bool.not_eq_true _ ▸ hrev)).symm.trans hv

theorem sameTotals_requests {w w' : World σ} (h : SameTotals w.ledger w'.ledger)
    (events : List CanonicalEvent) :
    SameTotals (serveAll s env w (requests processorId events)).ledger
      (serveAll s env w' (requests processorId events)).ledger :=
  (sameTotals_reversals s env processorId h events).trans
    (sameTotals_reversals s env processorId (SameTotals.refl _) events).symm

/-! ## What tries do to the totals -/

/-- A program that looks at the ledger and then performs at most one operation changes nothing if it
    is cut off before that. -/
theorem upTo_look {k : List LedgerEntry → Async Unit} {n : ℕ} {w : World σ}
    (h : (k w.ledger).ops (World.handle env) w ≤ 1)
    (hn : n < (Prog.op .ledgerAll k : Async Unit).ops (World.handle env) w) :
    ((Prog.op .ledgerAll k : Async Unit).upTo (World.handle env) n w).2 = w := by
  have hn : n < (k w.ledger).ops (World.handle env) w + 1 := hn
  rcases n with _ | _ | n
  · rfl
  · show ((k w.ledger).upTo (World.handle env) 0 w).2 = w
    cases k w.ledger <;> rfl
  · omega

/-- An event whose handling is cut off moves no totals. -/
theorem sameTotals_upTo {e : CanonicalEvent} {n : ℕ} {w : World σ}
    (hn : n < (s.handleEvent e (some processorId)).ops (World.handle env) w) :
    SameTotals w.ledger
      ((s.handleEvent e (some processorId)).upTo (World.handle env) n w).2.ledger := by
  cases hr : Request.isReversal (.webhook e (some processorId)) with
  | false =>
    exact Prog.upTo_inv (fun v : World σ => SameTotals w.ledger v.ledger)
      (fun _ _ ho hv => sameTotals_op env ho hv) (handleEvent_leaves s hr) n (SameTotals.refl _)
  | true =>
    suffices h : ((s.handleEvent e (some processorId)).upTo (World.handle env) n w).2 = w by
      rw [h]
      exact SameTotals.refl _
    obtain ⟨event, pid, m, he, hm⟩ := isReversal_iff.1 hr
    obtain ⟨rfl, rfl⟩ := Request.webhook.inj he
    rw [handleEvent_move s hm] at hn ⊢
    refine upTo_look env ?_ hn
    simp only [Prog.pure_bind]
    split <;> simp [Prog.ops, World.handle]

/-- An event that is rejected moves no totals. -/
theorem sameTotals_rejected {e : CanonicalEvent} {w w' : World σ}
    (h : (s.handleEvent e (some processorId)).exec (World.handle env) w = (none, w')) :
    SameTotals w.ledger w'.ledger := by
  cases hr : Request.isReversal (.webhook e (some processorId)) with
  | false =>
    have := sameTotals_other s env w hr
    rwa [serve, RecoveryCaseService.program, h] at this
  | true =>
    obtain ⟨event, pid, m, he, hm⟩ := isReversal_iff.1 hr
    obtain ⟨rfl, -⟩ := Request.webhook.inj he
    have := handleEvent_moves s env processorId (Option.isSome_of_eq_some hm) w
    rw [h] at this
    cases this

/-- The totals after events, maybe cut off, are those of the completed ones. -/
theorem sameTotals_completed (events : List CanonicalEvent) (w : World σ) (cut : Option ℕ) :
    SameTotals ((s.handleEvents processorId events).cutOff (World.handle env) cut w).2.ledger
      (serveAll s env w (requests processorId (completed s env processorId w cut events))).ledger := by
  induction events generalizing w cut with
  | nil => cases cut <;> exact SameTotals.refl _
  | cons e events ih =>
    rw [RecoveryCaseService.handleEvents, Prog.bind_eq, completed]
    by_cases hc : ∀ n ∈ cut, (s.handleEvent e (some processorId)).ops (World.handle env) w ≤ n
    · have hall : cut.all ((s.handleEvent e (some processorId)).ops (World.handle env) w ≤ ·) := by
        simpa [Option.all_eq_true] using hc
      rw [Prog.cutOff_bind_of_le hc]
      rcases hr : (s.handleEvent e (some processorId)).exec (World.handle env) w with ⟨_ | r, v⟩
      · simpa [requests] using (sameTotals_rejected s env processorId hr).symm
      · have hv : serve s env w (.webhook e (some processorId)) = v := congrArg Prod.snd hr
        simp only [Option.isSome_some, hall, and_self, if_true, requests, List.map_cons,
          serveAll_cons, hv]
        exact ih v _
    · cases cut with
      | none => simp at hc
      | some n =>
        have hn : n < (s.handleEvent e (some processorId)).ops (World.handle env) w := by
          simpa using hc
        have hno : ¬ (s.handleEvent e (some processorId)).ops (World.handle env) w ≤ n :=
          not_le.2 hn
        simp only [Prog.cutOff, Prog.upTo_bind_of_lt hn, Option.all_some, hno, decide_false,
          Bool.false_eq_true, and_false, if_false]
        exact (sameTotals_upTo s env processorId hn).symm

/-- The totals after a try are those of the events it completes. -/
theorem sameTotals_tryIngest (w : World σ) (t : Ingested × Option ℕ) :
    SameTotals (tryIngest s env processorId w t.1 t.2).2.ledger
      (serveAll s env w (requests processorId (completedBy s env processorId w t))).ledger := by
  obtain ⟨ingested, cut⟩ := t
  cases ingested with
  | error message =>
    rcases cut with _ | _ | n <;> exact SameTotals.refl _
  | ok events => exact sameTotals_completed s env processorId events w cut

/-- The totals after tries are those of all events they complete. -/
theorem sameTotals_redeliver (tries : List (Ingested × Option ℕ)) {w w' : World σ}
    (h : SameTotals w.ledger w'.ledger) :
    SameTotals (redeliver s env processorId w tries).ledger
      (serveAll s env w' (requests processorId (completedAll s env processorId w tries))).ledger := by
  induction tries generalizing w w' with
  | nil => exact h
  | cons t tries ih =>
    rw [completedAll, requests, List.map_append, serveAll_append]
    refine ih ((sameTotals_tryIngest s env processorId w t).trans ?_)
    exact sameTotals_requests s env processorId h _

/-- The reversals among the handled events are those of one delivery, once each and in order, and
    others that are marked: each of these found nothing left when it was handled. -/
def CountsOnce (w : World σ) (handled events : List CanonicalEvent) : Prop :=
  ∃ arrivals : List (Request × Bool), arrivals.map Prod.fst = reversals processorId handled ∧
    once arrivals = reversals processorId events ∧
    ∀ before r after, arrivals = before ++ (r, true) :: after →
      Spent (serveAll s env w (before.map Prod.fst)).ledger r

/-- Events that count once leave the totals of one delivery. -/
theorem sameTotals_of_countsOnce {w : World σ} {handled events : List CanonicalEvent}
    (h : CountsOnce s env processorId w handled events) :
    SameTotals (serveAll s env w (requests processorId handled)).ledger
      (serveAll s env w (requests processorId events)).ledger := by
  obtain ⟨arrivals, hhandled, honce, hspent⟩ := h
  have hrev : ∀ r, (r, true) ∈ arrivals → r.isReversal := by
    intro r hr
    have : r ∈ reversals processorId handled := hhandled ▸ List.mem_map_of_mem hr
    exact (List.mem_filter.1 this).2
  have hbooks := (sameBooks_once s env w hrev hspent).sameTotals
  rw [honce, hhandled] at hbooks
  have hall := sameTotals_reversals s env processorId (SameTotals.refl w.ledger) handled
  have hone := sameTotals_reversals s env processorId (SameTotals.refl w.ledger) events
  exact (hall.trans hbooks.symm).trans hone.symm

/-- A webhook that is redelivered leaves of every invoice what one delivery without failures leaves,
    if what is handled beyond one delivery finds nothing left. -/
theorem heldNet_redeliver {w : World σ} {events : List CanonicalEvent}
    (hone : (tryIngest s env processorId w (.ok events) none).1 = true)
    {tries : List (Ingested × Option ℕ)}
    (h : CountsOnce s env processorId w (completedAll s env processorId w tries) events)
    (i : String) :
    heldNet (redeliver s env processorId w tries).ledger i =
      heldNet (tryIngest s env processorId w (.ok events) none).2.ledger i := by
  obtain ⟨-, events', he, hexec⟩ := tryIngest_acked s env processorId hone
  obtain rfl := Except.ok.inj he
  have hclean := sameTotals_tryIngest s env processorId w (.ok events, none)
  simp only [completedBy, completed_of_exec s env processorId hexec] at hclean
  have htries := sameTotals_redeliver s env processorId tries (SameTotals.refl w.ledger)
  have hcount := sameTotals_of_countsOnce s env processorId h
  exact ((htries.trans hcount).trans hclean.symm).heldNet i

end

/-! ## Recovery-relevant events -/

inductive RecoveryKind where
  | failed | confirmed | refunded | chargedBack | chargebackCancelled

/-- What a canonical event tells of a payment. -/
def EventBody.recoveryKind : EventBody → Option RecoveryKind
  | .invoiceFailed _ => some .failed
  | .invoicePaid _ => some .confirmed
  | .paymentReversed p =>
    match p.kind with
    | .refund => some .refunded
    | .chargeback => some .chargedBack
  | .paymentReversalReverted _ => some .chargebackCancelled
  | _ => none

/-- What an event of GoCardless tells of a payment. -/
def GcEvent.recoveryKind (event : GcEvent) : Option RecoveryKind :=
  if event.resourceType ≠ some "payments" then none
  else
    match event.action with
    | some "failed" => some .failed
    | some "confirmed" => some .confirmed
    | some "refunded" => some .refunded
    | some "charged_back" => some .chargedBack
    | some "chargeback_cancelled" => some .chargebackCancelled
    | _ => none

/-- What an event of Stripe tells of a payment. -/
def StripeEvent.recoveryKind (event : StripeEvent) : Option RecoveryKind :=
  match event.type with
  | some "invoice.payment_failed" | some "charge.failed" => some .failed
  | some "invoice.payment_succeeded" | some "invoice.paid" | some "charge.succeeded" =>
    some .confirmed
  | some "charge.refunded" => some .refunded
  | some "charge.dispute.created" => some .chargedBack
  | some "charge.dispute.closed" =>
    if event.object.status = some "won" then some .chargebackCancelled else none
  | _ => none

/-- The canonical event tells of the same, under the same id. -/
def Tells (id : Option String) (kind : Option RecoveryKind) (e : CanonicalEvent) : Prop :=
  e.processorEventId = id.getD "" ∧ e.body.recoveryKind = kind

/-- The recovery-relevant events of a body, each with its number in it. -/
def GcBody.relevant (body : GcBody) : List (GcEvent × ℕ) :=
  (body.events.getD []).zipIdx.filter fun x => x.1.recoveryKind.isSome

/-- The recovery-relevant event of a webhook, if it is one. -/
def StripeEvent.relevant (event : StripeEvent) : List StripeEvent :=
  [event].filter fun event => event.recoveryKind.isSome

/-- The event has a payment, and it is looked up. -/
def GcEvent.Found (event : GcEvent) (lookups : GcLookups) : Prop :=
  ∃ id payment, truthy event.links.payment = some id ∧
    lookups.getPayment id = .ok (some payment)

/-- The event is about an amount of an invoice: the one of a refunded charge, or that which is
    looked up for the charge of a dispute. -/
def StripeEvent.Found (event : StripeEvent) (lookup : StripeLookup) : Prop :=
  match event.type with
  | some "charge.refunded" => (truthy event.object.invoice).isSome ∧ 0 < event.object.refunded
  | some "charge.dispute.created" | some "charge.dispute.closed" =>
    0 < event.object.amount.getD 0 ∧ ∃ charge invoice, truthy event.object.charge = some charge ∧
      lookup charge = .ok (some invoice) ∧ invoice ≠ ""
  | _ => True

namespace GoCardlessAdapter

/-- An event that is mapped is recovery-relevant, and its payment was found. -/
theorem mapEvent_eq_some {adapter : GoCardlessAdapter} {event : GcEvent} {lookups : GcLookups}
    {e : CanonicalEvent} (h : adapter.mapEvent event lookups = some e) :
    event.resourceType = some "payments" ∧ event.Found lookups ∧ ∃ payment,
      ((event.action = some "charged_back" ∨ event.action = some "refunded") ∧
        e = adapter.mapReversalEvent event payment) ∨
      (event.action = some "chargeback_cancelled" ∧
        e = adapter.mapReversalRevertedEvent event payment) ∨
      ((event.action = some "failed" ∨ event.action = some "confirmed") ∧
        e = adapter.mapPaymentEvent event payment lookups) := by
  unfold mapEvent at h
  split at h
  · cases h
  next hres =>
    split at h
    · cases h
    next hact =>
      obtain ⟨id, hid, h⟩ := Option.bind_eq_some_iff.1 h
      split at h
      · cases h
      · cases h
      next payment hget =>
        refine ⟨not_not.1 hres, ⟨id, payment, hid, hget⟩, payment, ?_⟩
        split_ifs at h with hrev hcancel <;> obtain rfl := Option.some.inj h
        · exact .inl ⟨hrev, rfl⟩
        · exact .inr (.inl ⟨hcancel, rfl⟩)
        · exact .inr (.inr ⟨by tauto, rfl⟩)

theorem mapEvent_tells {adapter : GoCardlessAdapter} {event : GcEvent} {lookups : GcLookups}
    {e : CanonicalEvent} (h : adapter.mapEvent event lookups = some e) :
    event.recoveryKind.isSome ∧ Tells event.id event.recoveryKind e := by
  obtain ⟨hres, -, payment, ⟨ha | ha, rfl⟩ | ⟨ha, rfl⟩ | ⟨ha | ha, rfl⟩⟩ := mapEvent_eq_some h <;>
    simp [GcEvent.recoveryKind, hres, ha, Tells, mapReversalEvent, mapReversalRevertedEvent,
      mapPaymentEvent, envelope, reversal, EventBody.recoveryKind]

theorem mapEvent_isSome_iff (adapter : GoCardlessAdapter) {event : GcEvent}
    (lookups : GcLookups) (h : event.recoveryKind.isSome) :
    (adapter.mapEvent event lookups).isSome ↔ event.Found lookups := by
  constructor
  · intro hsome
    obtain ⟨e, he⟩ := Option.isSome_iff_exists.1 hsome
    exact (mapEvent_eq_some he).2.1
  · rintro ⟨id, payment, hid, hget⟩
    unfold GcEvent.recoveryKind at h
    split at h
    · cases h
    next hres =>
      have hact : ¬ (event.action ≠ some "failed" ∧ event.action ≠ some "confirmed" ∧
          event.action ≠ some "charged_back" ∧ event.action ≠ some "refunded" ∧
          event.action ≠ some "chargeback_cancelled") := by
        rintro ⟨h1, h2, h3, h4, h5⟩
        split at h <;> simp_all
      simp only [mapEvent, if_neg hres, if_neg hact, hid, hget, Option.bind_eq_bind,
        Option.bind_some]
      split_ifs <;> rfl

end GoCardlessAdapter

namespace StripeAdapter

theorem mapDispute_eq_some {obj : StripeObject} {lookup : StripeLookup}
    {make : ReversalPayload → EventBody} {reason : Option String} {b : EventBody}
    (h : mapDispute obj lookup make reason = some b) :
    ∃ p, p.kind = .chargeback ∧ b = make p := by
  unfold mapDispute at h
  simp only [Option.bind_eq_bind, Option.bind_eq_some_iff] at h
  obtain ⟨charge, -, h⟩ := h
  split_ifs at h
  obtain ⟨invoice, -, h⟩ := Option.bind_eq_some_iff.1 h
  exact ⟨_, rfl, (Option.some.inj h).symm⟩

theorem mapDispute_isSome_iff {obj : StripeObject} {lookup : StripeLookup}
    {make : ReversalPayload → EventBody} {reason : Option String} :
    (mapDispute obj lookup make reason).isSome ↔
      0 < obj.amount.getD 0 ∧ ∃ charge invoice, truthy obj.charge = some charge ∧
        lookup charge = .ok (some invoice) ∧ invoice ≠ "" := by
  unfold mapDispute
  cases hc : truthy obj.charge with
  | none => simp
  | some charge =>
    simp only [Option.bind_eq_bind, Option.bind_some]
    split_ifs with ha
    · simp [not_lt.2 ha]
    · cases hl : lookup charge with
      | error message => simp [resolveInvoiceRef, hl]
      | ok invoice =>
        cases invoice with
        | none => simp [resolveInvoiceRef, hl, truthy]
        | some invoice =>
          by_cases hi : invoice = "" <;>
            simp [resolveInvoiceRef, hl, truthy, not_le.1 ha, hi, Option.filter]

theorem mapRefund_isSome_iff {obj : StripeObject} :
    (mapRefund obj).isSome ↔ (truthy obj.invoice).isSome ∧ 0 < obj.refunded := by
  unfold mapRefund
  cases hi : truthy obj.invoice with
  | none => simp
  | some invoice =>
    simp only [Option.bind_eq_bind, Option.bind_some]
    split_ifs with ha
    · simp [ha]
    · simp [not_le.1 ha]

theorem mapEvent_tells {adapter : StripeAdapter} {event : StripeEvent}
    {lookup : StripeLookup} {e : CanonicalEvent} (h : adapter.mapEvent lookup event = some e) :
    event.recoveryKind.isSome ∧ Tells event.id event.recoveryKind e := by
  obtain ⟨b, hb, rfl⟩ := Option.map_eq_some_iff.1 h
  suffices hk : event.recoveryKind.isSome ∧ b.recoveryKind = event.recoveryKind from
    ⟨hk.1, rfl, hk.2⟩
  unfold body at hb
  unfold StripeEvent.recoveryKind
  generalize event.type = type at hb ⊢
  split at hb
  · obtain rfl := Option.some.inj hb
    exact ⟨rfl, rfl⟩
  · obtain rfl := Option.some.inj hb
    exact ⟨rfl, rfl⟩
  · obtain rfl := Option.some.inj hb
    exact ⟨rfl, rfl⟩
  · obtain rfl := Option.some.inj hb
    exact ⟨rfl, rfl⟩
  · obtain rfl := Option.some.inj hb
    exact ⟨rfl, rfl⟩
  · unfold mapRefund at hb
    obtain ⟨invoice, -, hb⟩ := Option.bind_eq_some_iff.1 hb
    split_ifs at hb
    obtain rfl := Option.some.inj hb
    exact ⟨rfl, rfl⟩
  · obtain ⟨p, hp, rfl⟩ := mapDispute_eq_some hb
    exact ⟨rfl, by simp only [EventBody.recoveryKind, hp]⟩
  · split at hb
    · cases hb
    next hwon =>
      obtain ⟨p, hp, rfl⟩ := mapDispute_eq_some hb
      simp [not_not.1 hwon, EventBody.recoveryKind]
  · cases hb

theorem mapEvent_isSome_iff (adapter : StripeAdapter) {event : StripeEvent}
    (lookup : StripeLookup) (h : event.recoveryKind.isSome) :
    (adapter.mapEvent lookup event).isSome ↔ event.Found lookup := by
  rw [mapEvent, Option.isSome_map, StripeEvent.Found]
  unfold StripeEvent.recoveryKind at h
  unfold body
  generalize event.type = type at h ⊢
  split at h
  · exact iff_of_true rfl trivial
  · exact iff_of_true rfl trivial
  · exact iff_of_true rfl trivial
  · exact iff_of_true rfl trivial
  · exact iff_of_true rfl trivial
  · exact mapRefund_isSome_iff
  · exact mapDispute_isSome_iff
  · split at h
    next hwon => simpa [hwon] using mapDispute_isSome_iff
    · cases h
  · cases h

end StripeAdapter

/-! ## What acknowledged webhooks have handled -/

/-- Each item that satisfies `p` has its image in the list of images exactly if all of these items
    have one. -/
theorem forall₂_filterMap_iff {X Y : Type} {l : List X} {f : X → Option Y} {p : X → Bool}
    {R : X → Y → Prop} (h : ∀ x y, f x = some y → p x ∧ R x y) :
    List.Forall₂ R (l.filter p) (l.filterMap f) ↔ ∀ x ∈ l.filter p, (f x).isSome := by
  have hmap : l.filterMap f = (l.filter p).filterMap f := by
    rw [List.filterMap_filter]
    refine List.filterMap_congr fun x _ => ?_
    by_cases hx : p x
    · rw [if_pos hx]
    · rw [if_neg hx, Option.eq_none_iff_forall_ne_some]
      exact fun y hy => hx (h x y hy).1
  rw [hmap]
  constructor
  · intro hall
    exact List.filterMap_length_eq_length.1 hall.length_eq.symm
  · intro hall
    generalize l.filter p = l' at hall ⊢
    induction l' with
    | nil => exact .nil
    | cons x l' ih =>
      obtain ⟨y, hy⟩ := Option.isSome_iff_exists.1 (hall x List.mem_cons_self)
      rw [List.filterMap_cons_some hy]
      exact .cons (h x y hy).2 (ih fun x' hx' => hall x' (List.mem_cons_of_mem _ hx'))

section

variable {σ : Type} (s : RecoveryCaseService) (env : Env σ) (processorId : String)

/-- Each item was turned into an event that tells of it, in order, and all of them were handled. -/
def HandlesAll {X : Type} (w : World σ) (ingested : Ingested) (items : List X)
    (tells : X → CanonicalEvent → Prop) : Prop :=
  ∃ events, ingested = .ok events ∧ List.Forall₂ tells items events ∧
    ((s.handleEvents processorId events).exec (World.handle env) w).1 = some ()

/-- An acknowledged webhook has handled all items exactly if all of them were mapped. -/
theorem handlesAll_iff {X : Type} {w : World σ} {ingested : Ingested} {cut : Option ℕ}
    (hack : (tryIngest s env processorId w ingested cut).1 = true) {l : List X}
    {f : X → Option CanonicalEvent} {p : X → Bool} {tells : X → CanonicalEvent → Prop}
    (hf : ∀ x e, f x = some e → p x ∧ tells x e)
    (hin : ∀ events, ingested = .ok events → events = l.filterMap f) :
    HandlesAll s env processorId w ingested (l.filter p) tells ↔
      ∀ x ∈ l.filter p, (f x).isSome := by
  obtain ⟨-, events, rfl, hexec⟩ := tryIngest_acked s env processorId hack
  obtain rfl := hin events rfl
  rw [← forall₂_filterMap_iff hf]
  constructor
  · rintro ⟨events, he, hall, -⟩
    obtain rfl := Except.ok.inj he
    exact hall
  · intro hall
    exact ⟨_, rfl, hall, congrArg Prod.fst hexec⟩

theorem gocardless_handlesAll_iff {adapter : GoCardlessAdapter} {w : World σ}
    {lookups : ℕ → GcLookups} {raw : RawWebhook GcBody} {body : GcBody} {cut : Option ℕ}
    (hbody : raw.body = some body)
    (hack : (tryIngest s env processorId w (adapter.ingestWebhook lookups raw) cut).1 = true) :
    HandlesAll s env processorId w (adapter.ingestWebhook lookups raw) body.relevant
      (fun x => Tells x.1.id x.1.recoveryKind) ↔ ∀ x ∈ body.relevant, x.1.Found (lookups x.2) := by
  have hmapped : ∀ events, adapter.ingestWebhook lookups raw = .ok events →
      events = (body.events.getD []).zipIdx.filterMap fun x =>
        adapter.mapEvent x.1 (lookups x.2) := by
    intro events he
    cases hv : raw.verified with
    | false => simp [GoCardlessAdapter.ingestWebhook, hv] at he
    | true =>
      simp only [GoCardlessAdapter.ingestWebhook, hv, hbody, Bool.not_true, Bool.false_eq_true,
        if_false, Except.ok.injEq] at he
      exact he.symm
  have htells : ∀ (x : GcEvent × ℕ) e, adapter.mapEvent x.1 (lookups x.2) = some e →
      x.1.recoveryKind.isSome ∧ Tells x.1.id x.1.recoveryKind e :=
    fun x e he => GoCardlessAdapter.mapEvent_tells he
  refine (handlesAll_iff s env processorId hack htells hmapped).trans (forall₂_congr fun x hx => ?_)
  exact adapter.mapEvent_isSome_iff _ (List.mem_filter.1 hx).2

theorem stripe_handlesAll_iff {adapter : StripeAdapter} {w : World σ} {lookup : StripeLookup}
    {raw : RawWebhook StripeEvent} {event : StripeEvent} {cut : Option ℕ}
    (hbody : raw.body = some event)
    (hack : (tryIngest s env processorId w (adapter.ingestWebhook lookup raw) cut).1 = true) :
    HandlesAll s env processorId w (adapter.ingestWebhook lookup raw) event.relevant
      (fun x => Tells x.id x.recoveryKind) ↔ ∀ x ∈ event.relevant, x.Found lookup := by
  have hmapped : ∀ events, adapter.ingestWebhook lookup raw = .ok events →
      events = [event].filterMap (adapter.mapEvent lookup) := by
    intro events he
    cases hv : raw.verified with
    | false => simp [StripeAdapter.ingestWebhook, hv] at he
    | true =>
      simp only [StripeAdapter.ingestWebhook, hv, hbody, Bool.not_true, Bool.false_eq_true,
        if_false, Except.ok.injEq] at he
      rw [← he]
      cases h : adapter.mapEvent lookup event <;> simp [h]
  have htells : ∀ (x : StripeEvent) e, adapter.mapEvent lookup x = some e →
      x.recoveryKind.isSome ∧ Tells x.id x.recoveryKind e :=
    fun x e he => StripeAdapter.mapEvent_tells he
  refine (handlesAll_iff s env processorId hack htells hmapped).trans (forall₂_congr fun x hx => ?_)
  exact adapter.mapEvent_isSome_iff _ (List.mem_filter.1 hx).2

/-- An acknowledged webhook has turned all recovery-relevant events of its body into canonical ones
    and handled them exactly if, at GoCardless, each has a payment that its look-up found, and, at
    Stripe, it is about an amount of an invoice that its look-up found.  A webhook of any adapter
    that is redelivered, with any look-ups and cut off anywhere, leaves of every invoice what one
    delivery leaves, if the reversals it has handled beyond those of one delivery found nothing
    left. -/
theorem acknowledged_lossless_iff (w : World σ) (gocardless : GoCardlessAdapter)
    (stripe : StripeAdapter) :
    (∀ lookups raw body cut, raw.body = some body →
      (tryIngest s env "gocardless" w (gocardless.ingestWebhook lookups raw) cut).1 = true →
      (HandlesAll s env "gocardless" w (gocardless.ingestWebhook lookups raw) body.relevant
        (fun x => Tells x.1.id x.1.recoveryKind) ↔
      ∀ x ∈ body.relevant, x.1.Found (lookups x.2))) ∧
    (∀ lookup raw event cut, raw.body = some event →
      (tryIngest s env "stripe" w (stripe.ingestWebhook lookup raw) cut).1 = true →
      (HandlesAll s env "stripe" w (stripe.ingestWebhook lookup raw) event.relevant
        (fun x => Tells x.id x.recoveryKind) ↔ ∀ x ∈ event.relevant, x.Found lookup)) ∧
    ∀ (Lookups : Type) (webhook : Lookups → Ingested) unfailing events
      (tries : List (Lookups × Option ℕ)), webhook unfailing = .ok events →
      (tryIngest s env processorId w (webhook unfailing) none).1 = true →
      let tries := tries.map fun t => (webhook t.1, t.2)
      CountsOnce s env processorId w (completedAll s env processorId w tries) events →
      ∀ i, heldNet (redeliver s env processorId w tries).ledger i =
        heldNet (tryIngest s env processorId w (webhook unfailing) none).2.ledger i := by
  refine ⟨?_, ?_, ?_⟩
  · intro lookups raw body cut hbody hack
    exact gocardless_handlesAll_iff s env "gocardless" hbody hack
  · intro lookup raw event cut hbody hack
    exact stripe_handlesAll_iff s env "stripe" hbody hack
  · intro Lookups webhook unfailing events tries hevents hone
    rw [hevents] at hone ⊢
    intro tries hcount i
    exact heldNet_redeliver s env processorId hone hcount i

end

namespace Sample

def gocardless : GoCardlessAdapter := ⟨"mrc_1"⟩

/-- An event of the payment that was recovered. -/
def gcEvent (id action : String) : GcEvent where
  id := some id
  resourceType := some "payments"
  action := some action
  links := ⟨some "1"⟩

/-- Look-ups that find a payment of the amount, or fail. -/
def gcLookups (amount : Option ℚ) (_ : ℕ) : GcLookups where
  getPayment id :=
    match amount with
    | some amount => .ok (some { id, amount := some amount, currency := some "USD" })
    | none => .error "timeout"
  getCustomer _ := .ok none

/-- A webhook with the events. -/
def gcWebhook (events : List GcEvent) : RawWebhook GcBody := ⟨true, some ⟨some events⟩⟩

/-- A refund and a confirmation, in one webhook. -/
def gcBatch : RawWebhook GcBody := gcWebhook [gcEvent "EV1" "refunded", gcEvent "EV2" "confirmed"]

end Sample

/-- A chargeback whose look-up fails is acknowledged, and nothing of it is handled; a refund of 30
    that was handled before the next event was rejected is handled again. -/
theorem acknowledged_lossless_fails :
    let lost := tryIngest Sample.service Sample.env "gocardless" Sample.recovered
      (Sample.gocardless.ingestWebhook (Sample.gcLookups none)
        (Sample.gcWebhook [Sample.gcEvent "EV1" "charged_back"])) none
    let held := tryIngest Sample.service Sample.env "gocardless" Sample.recovered
      (Sample.gocardless.ingestWebhook (Sample.gcLookups (some 30))
        (Sample.gcWebhook [Sample.gcEvent "EV1" "charged_back"])) none
    let batch := Sample.gocardless.ingestWebhook (Sample.gcLookups (some 30)) Sample.gcBatch
    let redelivered := fun tries =>
      redeliver Sample.service Sample.env "gocardless" Sample.recovered tries
    (lost.1 = true ∧ heldNet lost.2.ledger (invoiceIdOf "1") = 100) ∧
      (held.1 = true ∧ heldNet held.2.ledger (invoiceIdOf "1") = 70) ∧
      heldNet (redelivered [(batch, some 2), (batch, none)]).ledger (invoiceIdOf "1") = 40 ∧
      heldNet (redelivered [(batch, none)]).ledger (invoiceIdOf "1") = 70 := by
  decide +kernel

/-- A webhook whose look-ups succeed is handled; and if it refunds everything, it may be redelivered. -/
theorem acknowledged_lossless_sample :
    let batch := Sample.gocardless.ingestWebhook (Sample.gcLookups (some 100)) Sample.gcBatch
    HandlesAll Sample.service Sample.env "gocardless" Sample.recovered batch
        [(Sample.gcEvent "EV1" "refunded", 0), (Sample.gcEvent "EV2" "confirmed", 1)]
        (fun x => Tells x.1.id x.1.recoveryKind) ∧
      heldNet (redeliver Sample.service Sample.env "gocardless" Sample.recovered
        [(batch, some 2), (batch, none)]).ledger (invoiceIdOf "1") =
      heldNet (tryIngest Sample.service Sample.env "gocardless" Sample.recovered batch
        none).2.ledger (invoiceIdOf "1") := by
  intro batch
  have h := acknowledged_lossless_iff Sample.service Sample.env "gocardless" Sample.recovered
    Sample.gocardless ⟨"mrc_1"⟩
  constructor
  · refine (h.1 (Sample.gcLookups (some 100)) Sample.gcBatch _ none rfl (by decide +kernel)).2 ?_
    intro x hx
    have hid : ∀ x ∈ GcBody.relevant ⟨some [Sample.gcEvent "EV1" "refunded",
        Sample.gcEvent "EV2" "confirmed"]⟩, truthy x.1.links.payment = some "1" := by
      decide +kernel
    exact ⟨"1", _, hid x hx, rfl⟩
  · let refund := Sample.gocardless.mapReversalEvent (Sample.gcEvent "EV1" "refunded")
      { id := "1", amount := some 100, currency := some "USD" }
    let confirm := Sample.gocardless.mapPaymentEvent (Sample.gcEvent "EV2" "confirmed")
      { id := "1", amount := some 100, currency := some "USD" } (Sample.gcLookups (some 100) 1)
    have hbatch : batch = .ok [refund, confirm] := by decide +kernel
    refine h.2.2 Unit (fun _ => batch) () [refund, confirm] [((), some 2), ((), none)] hbatch
      (by decide +kernel) ?_ (invoiceIdOf "1")
    have hcompleted : completedAll Sample.service Sample.env "gocardless" Sample.recovered
        [(batch, some 2), (batch, none)] = [refund, refund, confirm] := by decide +kernel
    refine ⟨[(.webhook refund (some "gocardless"), false),
      (.webhook refund (some "gocardless"), true)], ?_, rfl, ?_⟩
    · show _ = reversals "gocardless" (completedAll Sample.service Sample.env "gocardless"
        Sample.recovered [(batch, some 2), (batch, none)])
      rw [hcompleted]
      rfl
    · intro before r after hr
      rcases before with _ | ⟨a, _ | ⟨b, before⟩⟩ <;> simp at hr
      obtain ⟨rfl, rfl, -⟩ := hr
      exact .inr (by decide +kernel)

end AX10M
