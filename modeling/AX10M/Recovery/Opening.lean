/-
  Opening a case in several processes that share one ledger.

  Each process keeps the set of the invoices it has opened in its own memory, and
  `openCase` adds an invoice to it before the append that may be rejected.  A
  delivery that is acknowledged leaves exactly one assignment if the memory of the
  process and the ledger agree on the invoice when it arrives; otherwise it leaves
  none (a rejected append, then a redelivery), or two (a restart, another process).
-/
import AX10M.Recovery.Run

namespace AX10M

open Js Effects

/-- The processes of the service, with the ledger they share; a process's own memory is its
    world, less the ledger. -/
structure Fleet (σ : Type) where
  ledger : List LedgerEntry
  process : ℕ → World σ

/-- A delivery of a failed invoice to `openCase`. -/
structure Opening where
  invoice : Invoice
  stratum : Stratum
  occurredAt : String

/-- The input of a delivery's assignment. -/
def Opening.input (o : Opening) : AssignmentInput :=
  ⟨o.invoice.merchantId, some o.invoice.customerId, o.invoice.id, o.stratum⟩

inductive FleetStep where
  /-- a delivery to a process; the append, if it comes to one, succeeds or is rejected -/
  | deliver (process : ℕ) (o : Opening) (appends : Bool)
  /-- a process is restarted with an empty memory -/
  | restart (process : ℕ)

/-- The assignments of an invoice in a ledger. -/
def assignments (ledger : List LedgerEntry) (invoiceId : String) : List LedgerEntry :=
  ledger.filter fun e => e.isFor invoiceId ∧ e.type = .holdoutAssigned

section

variable {σ : Type} (s : RecoveryCaseService) (env : Env σ)

/-- The operations when appends may be rejected. -/
def faulty (appends : Bool) : Handler ServiceSig (World σ)
  | .ledgerAppend e, w => if appends then World.handle env (.ledgerAppend e) w else (none, w)
  | o, w => World.handle env o w

theorem faulty_true : faulty env true = World.handle env := by
  funext o w
  cases o <;> rfl

namespace Fleet

/-- What a process sees. -/
def view (F : Fleet σ) (k : ℕ) : World σ := { F.process k with ledger := F.ledger }

/-- Run `openCase` in a process: whether it was acknowledged, and the fleet after it. -/
def deliver (F : Fleet σ) (k : ℕ) (o : Opening) (appends : Bool) : Bool × Fleet σ :=
  let (r, w) := (s.openCase o.invoice o.stratum o.occurredAt).exec (faulty env appends) (F.view k)
  (r.isSome, ⟨w.ledger, Function.update F.process k w⟩)

/-- One step of the fleet; the second component collects the acknowledged invoices. -/
def step (F : Fleet σ × List String) : FleetStep → Fleet σ × List String
  | .deliver k o appends =>
    match F.1.deliver s env k o appends with
    | (true, F') => (F', o.invoice.id :: F.2)
    | (false, F') => (F', F.2)
  | .restart k =>
    (⟨F.1.ledger, Function.update F.1.process k
      (World.init (F.1.process k).policy (F.1.process k).clock)⟩, F.2)

/-- A run of the fleet. -/
def run (F : Fleet σ × List String) (steps : List FleetStep) : Fleet σ × List String :=
  steps.foldl (step s env) F

/-- The fleet before anything has happened. -/
def init (policy : σ) (clock : ℕ → ℤ) : Fleet σ × List String :=
  (⟨[], fun _ => World.init policy clock⟩, [])

end Fleet

/-- Every acknowledged invoice has exactly one assignment. -/
def OneAssignment (F : Fleet σ × List String) : Prop :=
  ∀ i ∈ F.2, (assignments F.1.ledger i).length = 1

/-- The memory of the process and the ledger agree on the invoice of a delivery: an opened
    invoice has its assignment, and one that is to be appended has none yet.  A delivery
    whose assignment is a range error, or whose append is rejected, is not acknowledged
    and agrees with anything. -/
def Agrees (F : Fleet σ) : FleetStep → Prop
  | .deliver k o appends =>
    (∃ a, assign s.sha256 o.input s.holdoutConfig = .ok a) →
    (o.invoice.id ∈ (F.process k).openedInvoices → assignments F.ledger o.invoice.id ≠ []) ∧
    (o.invoice.id ∉ (F.process k).openedInvoices → appends →
      assignments F.ledger o.invoice.id = [])
  | .restart _ => True

/-! ### A delivery -/

theorem assignments_append (l l' : List LedgerEntry) (i : String) :
    assignments (l ++ l') i = assignments l i ++ assignments l' i := List.filter_append ..

theorem assignments_entry (invoice : Invoice) (a : Assignment) (t i : String) :
    assignments [⟨invoice.merchantId, .holdoutAssigned, t, assignedDetail invoice a⟩] i =
      if invoice.id = i then
        [⟨invoice.merchantId, .holdoutAssigned, t, assignedDetail invoice a⟩] else [] := by
  simp [assignments, List.filter_cons, LedgerEntry.isFor, LedgerEntry.field, assignedDetail,
    Record.get_cons]

/-- What `openCase` does: nothing if the assignment is a range error or the invoice is already
    opened; otherwise it opens the invoice and, unless rejected, appends its entry. -/
theorem openCase_exec (o : Opening) (appends : Bool) (w : World σ) :
    (s.openCase o.invoice o.stratum o.occurredAt).exec (faulty env appends) w =
      match assign s.sha256 o.input s.holdoutConfig with
      | .error _ => (none, w)
      | .ok a =>
        if o.invoice.id ∈ w.openedInvoices then (some a.bucket, w)
        else
          let w' := { w with openedInvoices := w.openedInvoices.insert o.invoice.id }
          if appends then (some a.bucket, { w' with ledger := w'.ledger ++
            [⟨o.invoice.merchantId, .holdoutAssigned, o.occurredAt, assignedDetail o.invoice a⟩] })
          else (none, w') := by
  unfold RecoveryCaseService.openCase
  change Prog.exec _ (match assign s.sha256 o.input s.holdoutConfig with
    | .error message => _
    | .ok assignment => _) w = _
  cases assign s.sha256 o.input s.holdoutConfig with
  | error message => rfl
  | ok a =>
    by_cases ho : o.invoice.id ∈ w.openedInvoices
    · simp [Prog.exec, faulty, World.handle, ho]
    · cases appends <;> simp [Prog.exec, faulty, World.handle, ho]

/-- The result of a delivery, and the ledger after it. -/
theorem deliver_ledger (F : Fleet σ) (k : ℕ) (o : Opening) (appends : Bool) :
    ((F.deliver s env k o appends).1, (F.deliver s env k o appends).2.ledger) =
      match assign s.sha256 o.input s.holdoutConfig with
      | .error _ => (false, F.ledger)
      | .ok a =>
        if o.invoice.id ∈ (F.process k).openedInvoices then (true, F.ledger)
        else if appends then (true, F.ledger ++
          [⟨o.invoice.merchantId, .holdoutAssigned, o.occurredAt, assignedDetail o.invoice a⟩])
        else (false, F.ledger) := by
  simp only [Fleet.deliver, openCase_exec]
  cases assign s.sha256 o.input s.holdoutConfig with
  | error message => rfl
  | ok a =>
    by_cases ho : o.invoice.id ∈ (F.process k).openedInvoices
    · simp [Fleet.view, ho]
    · cases appends <;> simp [Fleet.view, ho]

/-! ### Steps and runs -/

/-- No invoice has two assignments, and every acknowledged one has one. -/
def Assigned (F : Fleet σ × List String) : Prop :=
  (∀ i, (assignments F.1.ledger i).length ≤ 1) ∧ OneAssignment F

theorem assigned_step {F : Fleet σ × List String} {st : FleetStep} (hF : Assigned F)
    (h : Agrees s F.1 st) : Assigned (Fleet.step s env F st) := by
  obtain ⟨hle, hone⟩ := hF
  cases st with
  | restart k => exact ⟨hle, hone⟩
  | deliver k o appends =>
    have hd := deliver_ledger s env F.1 k o appends
    simp only [Assigned, OneAssignment, Fleet.step]
    generalize F.1.deliver s env k o appends = d at hd
    obtain ⟨acked, F'⟩ := d
    simp only [] at hd
    cases ha : assign s.sha256 o.input s.holdoutConfig with
    | error message =>
      simp only [ha, Prod.mk.injEq] at hd
      obtain ⟨rfl, hl⟩ := hd
      simp only [hl]
      exact ⟨hle, hone⟩
    | ok a =>
      simp only [ha] at hd
      obtain ⟨hopen, hnew⟩ := h ⟨a, ha⟩
      by_cases ho : o.invoice.id ∈ (F.1.process k).openedInvoices
      · simp only [if_pos ho, Prod.mk.injEq] at hd
        obtain ⟨rfl, hl⟩ := hd
        simp only [hl, List.mem_cons, forall_eq_or_imp]
        have := List.length_pos_iff.2 (hopen ho)
        exact ⟨hle, by have := hle o.invoice.id; omega, hone⟩
      · simp only [if_neg ho] at hd
        cases appends with
        | false =>
          simp only [Bool.false_eq_true, if_false, Prod.mk.injEq] at hd
          obtain ⟨rfl, hl⟩ := hd
          simp only [hl]
          exact ⟨hle, hone⟩
        | true =>
          simp only [if_true, Prod.mk.injEq] at hd
          obtain ⟨rfl, hl⟩ := hd
          have hnone := hnew ho rfl
          have hlen : ∀ i, (assignments F'.ledger i).length =
              (assignments F.1.ledger i).length + if o.invoice.id = i then 1 else 0 := by
            intro i
            rw [hl, assignments_append, assignments_entry, List.length_append]
            by_cases hi : o.invoice.id = i <;> simp [hi]
          simp only [hlen, List.mem_cons, forall_eq_or_imp]
          refine ⟨fun i => ?_, by simp [hnone], fun i hi => ?_⟩
          · by_cases hi : o.invoice.id = i
            · subst hi
              simp [hnone]
            · simpa [hi] using hle i
          · have hne : o.invoice.id ≠ i := by
              rintro rfl
              have := hone _ hi
              rw [hnone] at this
              exact absurd this (by simp)
            simpa [hne] using hone i hi

/-- A delivery after which every acknowledged invoice has one assignment agrees. -/
theorem agrees_of_step {F : Fleet σ × List String} {st : FleetStep}
    (h : OneAssignment (Fleet.step s env F st)) : Agrees s F.1 st := by
  cases st with
  | restart k => trivial
  | deliver k o appends =>
    rintro ⟨a, ha⟩
    have hd := deliver_ledger s env F.1 k o appends
    simp only [OneAssignment, Fleet.step] at h
    generalize F.1.deliver s env k o appends = d at hd h
    obtain ⟨acked, F'⟩ := d
    simp only [ha] at hd
    refine ⟨fun ho => ?_, fun ho happ => ?_⟩
    · simp only [if_pos ho, Prod.mk.injEq] at hd
      obtain ⟨rfl, hl⟩ := hd
      have := h o.invoice.id List.mem_cons_self
      rw [hl] at this
      intro hnone
      rw [hnone] at this
      exact absurd this (by simp)
    · simp only [if_neg ho, happ, if_true, Prod.mk.injEq] at hd
      obtain ⟨rfl, hl⟩ := hd
      have := h o.invoice.id List.mem_cons_self
      rw [hl, assignments_append, assignments_entry, if_pos rfl, List.length_append,
        List.length_singleton] at this
      exact List.length_eq_zero_iff.1 (by omega)

/-- Every acknowledged invoice has exactly one assignment, at every point of a run with restarts
    and rejected appends, exactly if at each delivery the memory of the process agrees with the
    ledger on the invoice. -/
theorem one_assignment (policy : σ) (clock : ℕ → ℤ) (steps : List FleetStep) :
    (∀ before after, steps = before ++ after →
      OneAssignment (Fleet.run s env (Fleet.init policy clock) before)) ↔
    ∀ before st after, steps = before ++ st :: after →
      Agrees s (Fleet.run s env (Fleet.init policy clock) before).1 st := by
  have run_snoc : ∀ before st, Fleet.run s env (Fleet.init policy clock) (before ++ [st]) =
      Fleet.step s env (Fleet.run s env (Fleet.init policy clock) before) st :=
    fun before st => List.foldl_concat ..
  constructor
  · intro h before st after he
    have := h (before ++ [st]) after (by simp [he])
    rw [run_snoc] at this
    exact agrees_of_step s env this
  · intro h before
    suffices hs : ∀ after, steps = before ++ after →
        Assigned (Fleet.run s env (Fleet.init policy clock) before) from
      fun after he => (hs after he).2
    induction before using List.reverseRecOn with
    | nil => exact fun _ _ => ⟨by simp [Fleet.run, Fleet.init, assignments],
        by simp [Fleet.run, Fleet.init, OneAssignment]⟩
    | append_singleton before st ih =>
      intro after he
      rw [List.append_assoc] at he
      rw [run_snoc]
      exact assigned_step s env (ih _ he) (h before st after he)

end

/-- A delivery of the sample invoice. -/
def Sample.opening : Opening :=
  ⟨Sample.invoice, deriveStratum Sample.invoice (some Sample.decline), "2026-08-16T12:00:00.000Z"⟩

/-- A rejected append, and the redelivery is acknowledged with no assignment; a restart, and the
    redelivery appends a second one. -/
theorem one_assignment_fails :
    let run := Fleet.run Sample.service Sample.env (Fleet.init () fun _ => 1786881600000)
    let lost := run [.deliver 0 Sample.opening false, .deliver 0 Sample.opening true]
    let doubled := run [.deliver 0 Sample.opening true, .restart 0, .deliver 0 Sample.opening true]
    lost.2 = ["inv_1"] ∧ (assignments lost.1.ledger "inv_1").length = 0 ∧
      doubled.2 = ["inv_1", "inv_1"] ∧ (assignments doubled.1.ledger "inv_1").length = 2 := by
  decide +kernel

end AX10M
