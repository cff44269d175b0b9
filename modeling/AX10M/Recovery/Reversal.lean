/-
  Reversals and reinstatements of recovered payments.

  The ledger of an invoice is summed up by three totals: recovered `R`, reversed `V`
  and reinstated `W`.  What the merchant still holds is `R - V + W`; the service
  caps a reversal at `R - V` and a reinstatement at `V - W`, and keeps
  `0 ≤ W ≤ V ≤ R`.
-/
import AX10M.Recovery.Run
import Mathlib.Algebra.Order.BigOperators.Group.List
import Mathlib.Tactic.Linarith
import Mathlib.Tactic.Ring

namespace AX10M

open Js Effects

/-! ## The totals of an invoice -/

/-- The sum of the amounts of an invoice's entries of a type. -/
def amountOf (ledger : List LedgerEntry) (type : LedgerEventType) (invoiceId : String) : ℚ :=
  ((ledger.filter fun e => e.isFor invoiceId ∧ e.type = type).map LedgerEntry.amount).sum

/-- The recovered amount still held: recovered, less reversed, plus reinstated. -/
def heldNet (ledger : List LedgerEntry) (invoiceId : String) : ℚ :=
  amountOf ledger .caseRecovered invoiceId - amountOf ledger .caseReversed invoiceId +
    amountOf ledger .caseReversalReverted invoiceId

@[simp] theorem amountOf_nil (type : LedgerEventType) (i : String) : amountOf [] type i = 0 := rfl

@[simp] theorem amountOf_append (l l' : List LedgerEntry) (type : LedgerEventType) (i : String) :
    amountOf (l ++ l') type i = amountOf l type i + amountOf l' type i := by
  simp [amountOf]

theorem amountOf_singleton (e : LedgerEntry) (type : LedgerEventType) (i : String) :
    amountOf [e] type i = if e.isFor i ∧ e.type = type then e.amount else 0 := by
  by_cases h : e.isFor i ∧ e.type = type <;> simp [amountOf, h]

theorem netRecovered_eq (l : List LedgerEntry) (i : String) :
    netRecovered l i = amountOf l .caseRecovered i - amountOf l .caseReversed i := by
  induction l using List.reverseRecOn with
  | nil => simp [netRecovered]
  | append_singleton l e ih =>
    simp only [netRecovered, List.foldl_append, List.foldl_cons, List.foldl_nil, amountOf_append,
      amountOf_singleton] at ih ⊢
    rw [ih]
    by_cases hi : e.isFor i
    · cases e.type <;> simp [hi] <;> ring
    · simp [hi]

theorem netReversed_eq (l : List LedgerEntry) (i : String) :
    netReversed l i = amountOf l .caseReversed i - amountOf l .caseReversalReverted i := by
  induction l using List.reverseRecOn with
  | nil => simp [netReversed]
  | append_singleton l e ih =>
    simp only [netReversed, List.foldl_append, List.foldl_cons, List.foldl_nil, amountOf_append,
      amountOf_singleton] at ih ⊢
    rw [ih]
    by_cases hi : e.isFor i
    · cases e.type <;> simp [hi] <;> ring
    · simp [hi]

/-- The total that a move takes from. -/
def Move.source (m : Move) : LedgerEventType :=
  if m.type = .caseReversed then .caseRecovered else .caseReversed

/-- The cap of a move is what it takes from, less what it has taken. -/
theorem EventBody.cap_move {b : EventBody} {m : Move} (h : b.move = some m) (l : List LedgerEntry)
    (i : String) : m.cap l i = amountOf l m.source i - amountOf l m.type i := by
  rcases EventBody.move_eq_some h with ⟨p, -, rfl⟩ | ⟨p, -, rfl⟩
  · exact netRecovered_eq l i
  · exact netReversed_eq l i

/-- What the cap of a reversal leaves out of the held amount. -/
theorem heldNet_eq (l : List LedgerEntry) (i : String) :
    heldNet l i = netRecovered l i + amountOf l .caseReversalReverted i := by
  rw [heldNet, netRecovered_eq]

/-! ## Entries of reversals -/

section

variable (m : String) (type : LedgerEventType) (t : String) (p : ReversalPayload)
  (pid : Option String) (a : ℚ)

theorem reversalEntry_isFor (i : String) :
    (⟨m, type, t, reversalDetail p pid a⟩ : LedgerEntry).isFor i = decide (p.invoiceId = i) := by
  simp [LedgerEntry.isFor, LedgerEntry.field, reversalDetail, Record.get_cons]

theorem reversalEntry_amount :
    (⟨m, type, t, reversalDetail p pid a⟩ : LedgerEntry).amount = a := by
  simp [LedgerEntry.amount, LedgerEntry.field, reversalDetail, Record.get_cons, Record.get_append,
    Record.get_opt]

theorem amountOf_reversalEntry (type' : LedgerEventType) (i : String) :
    amountOf [⟨m, type, t, reversalDetail p pid a⟩] type' i =
      if p.invoiceId = i ∧ type = type' then a else 0 := by
  rw [amountOf_singleton, reversalEntry_isFor, reversalEntry_amount]
  simp

end

/-- A case appends nothing under the types it does not write. -/
theorem amountOf_of_caseEntry {invoice : Invoice} {types : List LedgerEventType}
    {added : List LedgerEntry} (h : ∀ e ∈ added, CaseEntry invoice types e)
    {type : LedgerEventType} (ht : type ∉ types) (i : String) : amountOf added type i = 0 := by
  have hf : added.filter (fun e => e.isFor i ∧ e.type = type) = [] := by
    refine List.filter_eq_nil_iff.2 fun e he => ?_
    have := (h e he).2.2.1
    simp only [Bool.decide_and, Bool.decide_eq_true, Bool.and_eq_true, decide_eq_true_eq, not_and]
    rintro - rfl
    exact ht this
  rw [amountOf, hf]
  rfl

/-- The recoveries a case appends are worth nothing less than nothing. -/
theorem amountOf_recovered_nonneg {invoice : Invoice} {types : List LedgerEventType}
    {added : List LedgerEntry} (h : ∀ e ∈ added, CaseEntry invoice types e)
    (hpos : 0 ≤ invoice.amount.amount) (i : String) : 0 ≤ amountOf added .caseRecovered i := by
  refine List.sum_nonneg fun x hx => ?_
  obtain ⟨e, he, rfl⟩ := List.mem_map.1 hx
  simp only [List.mem_filter, decide_eq_true_eq] at he
  rw [(h e he.1).amount he.2.2]
  exact hpos

/-! ## The invariant -/

/-- No invoice has more reinstated than reversed, or more reversed than recovered. -/
def Balanced (ledger : List LedgerEntry) : Prop := ∀ i,
  0 ≤ amountOf ledger .caseReversalReverted i ∧
  amountOf ledger .caseReversalReverted i ≤ amountOf ledger .caseReversed i ∧
  amountOf ledger .caseReversed i ≤ amountOf ledger .caseRecovered i

/-- The amount a request carries is positive. -/
def Request.Positive : Request → Prop
  | .execute _ p => 0 < p.invoice.amount.amount
  | .webhook event _ =>
    match event.body with
    | .paymentReversed p | .paymentReversalReverted p => 0 < p.amount
    | _ => True
  | .plan _ _ _ _ => True

section

variable {σ : Type} (s : RecoveryCaseService) (env : Env σ)

/-- The totals after a move: that of its type grows by the capped amount. -/
theorem amountOf_serve_move (w : World σ) {event : CanonicalEvent} (pid : Option String) {m : Move}
    (h : event.body.move = some m) (type : LedgerEventType) (i : String) :
    amountOf (serve s env w (.webhook event pid)).ledger type i =
      amountOf w.ledger type i + if m.payload.invoiceId = i ∧ m.type = type ∧ 0 < m.cap w.ledger i
        then min m.payload.amount (m.cap w.ledger i) else 0 := by
  rw [serve_move s env w pid h]
  by_cases hi : m.payload.invoiceId = i
  · subst hi
    split
    next hc => simp [not_lt.2 hc]
    next hc => simp [amountOf_reversalEntry, not_le.1 hc]
  · split <;> simp [amountOf_reversalEntry, hi]

/-- The totals after a reversal: the reversed one grows by the capped amount. -/
theorem serve_reversal (w : World σ) {event : CanonicalEvent} (pid : Option String)
    {p : ReversalPayload} (hb : event.body = .paymentReversed p) (type : LedgerEventType)
    (i : String) :
    amountOf (serve s env w (.webhook event pid)).ledger type i =
      amountOf w.ledger type i + if p.invoiceId = i ∧ .caseReversed = type ∧
        0 < netRecovered w.ledger i then min p.amount (netRecovered w.ledger i) else 0 :=
  amountOf_serve_move s env w pid (m := ⟨.caseReversed, netRecovered, p⟩) (by rw [hb]; rfl) type i

/-- The totals after a reinstatement: the reinstated one grows by the capped amount. -/
theorem serve_reinstatement (w : World σ) {event : CanonicalEvent} (pid : Option String)
    {p : ReversalPayload} (hb : event.body = .paymentReversalReverted p) (type : LedgerEventType)
    (i : String) :
    amountOf (serve s env w (.webhook event pid)).ledger type i =
      amountOf w.ledger type i + if p.invoiceId = i ∧ .caseReversalReverted = type ∧
        0 < netReversed w.ledger i then min p.amount (netReversed w.ledger i) else 0 :=
  amountOf_serve_move s env w pid (m := ⟨.caseReversalReverted, netReversed, p⟩) (by rw [hb]; rfl)
    type i

/-- A request that is no reversal only adds to what is recovered. -/
theorem serve_totals_of_case {w : World σ} {added : List LedgerEntry} {invoice : Invoice}
    {types : List LedgerEventType} {r : Request} (hr : r.caseOf = some (invoice, types))
    (hadded : ∀ e ∈ added, CaseEntry invoice types e) (hpos : r.Positive) (i : String) :
    amountOf (w.ledger ++ added) .caseReversed i = amountOf w.ledger .caseReversed i ∧
    amountOf (w.ledger ++ added) .caseReversalReverted i =
      amountOf w.ledger .caseReversalReverted i ∧
    amountOf w.ledger .caseRecovered i ≤ amountOf (w.ledger ++ added) .caseRecovered i := by
  have hno : ∀ type, type ∉ types → amountOf (w.ledger ++ added) type i =
      amountOf w.ledger type i := by
    intro type ht
    rw [amountOf_append, amountOf_of_caseEntry hadded ht, add_zero]
  cases r with
  | webhook event pid =>
    have ht : types = RecoveryCaseService.failureTypes := by
      cases hb : event.body <;> simp [Request.caseOf, hb] at hr
      exact hr.2.symm
    subst ht
    exact ⟨hno _ (by decide), hno _ (by decide), (hno _ (by decide)).ge⟩
  | plan invoice' method decline n =>
    simp only [Request.caseOf, Option.some.injEq, Prod.mk.injEq] at hr
    obtain ⟨-, rfl⟩ := hr
    exact ⟨hno _ (by decide), hno _ (by decide), (hno _ (by decide)).ge⟩
  | execute adapter p =>
    simp only [Request.caseOf, Option.some.injEq, Prod.mk.injEq] at hr
    obtain ⟨rfl, rfl⟩ := hr
    refine ⟨hno _ (by decide), hno _ (by decide), ?_⟩
    rw [amountOf_append]
    have := amountOf_recovered_nonneg hadded (le_of_lt hpos) i
    linarith

theorem balanced_step (w : World σ) (r : Request) (hr : r.Positive) (hw : Balanced w.ledger) :
    Balanced (serve s env w r).ledger := by
  intro i
  obtain ⟨h0, h1, h2⟩ := hw i
  rcases serve_ledger s env w r with ⟨invoice, types, added, hc, hl, hadded⟩ |
    ⟨event, pid, m, rfl, hm⟩ | ⟨-, hl⟩
  · obtain ⟨hv, hu, hrec⟩ := serve_totals_of_case (w := w) hc hadded hr i
    rw [hl, hv, hu]
    exact ⟨h0, h1, h2.trans hrec⟩
  · rcases EventBody.move_eq_some hm with ⟨p, hb, rfl⟩ | ⟨p, hb, rfl⟩
    · have hp : 0 < p.amount := by simpa [Request.Positive, hb] using hr
      simp only [serve_reversal s env w pid hb, reduceCtorEq, false_and, and_false, if_false,
        add_zero, true_and]
      have hcap := netRecovered_eq w.ledger i
      split
      next h =>
        have := le_min hp.le h.2.le
        have := min_le_right p.amount (netRecovered w.ledger i)
        exact ⟨h0, by linarith, by linarith⟩
      next => exact ⟨h0, by linarith, by linarith⟩
    · have hp : 0 < p.amount := by simpa [Request.Positive, hb] using hr
      simp only [serve_reinstatement s env w pid hb, reduceCtorEq, false_and, and_false, if_false,
        add_zero, true_and]
      have hcap := netReversed_eq w.ledger i
      split
      next h =>
        have := le_min hp.le h.2.le
        have := min_le_right p.amount (netReversed w.ledger i)
        exact ⟨by linarith, by linarith, h2⟩
      next => exact ⟨by linarith, by linarith, h2⟩
  · rw [hl]
    exact ⟨h0, h1, h2⟩

/-- Every reachable ledger is balanced. -/
theorem balanced_run (policy : σ) (clock : ℕ → ℤ) {rs : List Request}
    (hrs : ∀ r ∈ rs, r.Positive) : Balanced (serveAll s env (World.init policy clock) rs).ledger :=
  serveAll_inv s env (balanced_step s env) hrs fun i => by simp [World.init]

/-! ## Conservation -/

/-- What reversals and reinstatements do to the held amount, in every reachable ledger: a reversal
    takes as much of it as is held exactly if nothing is reinstated or the cap, which leaves
    reinstated amounts out, does not bind; a reinstatement always gives back as much as is
    reversed. -/
theorem reversal_conservation (policy : σ) (clock : ℕ → ℤ) (rs : List Request)
    (hrs : ∀ r ∈ rs, r.Positive) (event : CanonicalEvent) (pid : Option String)
    (p : ReversalPayload) (hp : 0 < p.amount) :
    let w := serveAll s env (World.init policy clock) rs
    let total := fun type => amountOf w.ledger type p.invoiceId
    let held := heldNet w.ledger p.invoiceId
    let heldAfter := heldNet (serve s env w (.webhook event pid)).ledger p.invoiceId
    (event.body = .paymentReversed p →
      (heldAfter = held - min p.amount held ↔ total .caseReversalReverted = 0 ∨
        p.amount ≤ total .caseRecovered - total .caseReversed)) ∧
    (event.body = .paymentReversalReverted p →
      heldAfter = held + min p.amount (total .caseReversed - total .caseReversalReverted)) ∧
    (netRecovered w.ledger p.invoiceId = held ↔ total .caseReversalReverted = 0) := by
  intro w total held heldAfter
  obtain ⟨h0, h1, h2⟩ := balanced_run s env policy clock hrs p.invoiceId
  have hcap : netRecovered w.ledger p.invoiceId = total .caseRecovered - total .caseReversed :=
    netRecovered_eq _ _
  have hback : netReversed w.ledger p.invoiceId =
      total .caseReversed - total .caseReversalReverted := netReversed_eq _ _
  have hheld : held = netRecovered w.ledger p.invoiceId + total .caseReversalReverted :=
    heldNet_eq _ _
  change 0 ≤ total .caseReversalReverted at h0
  change total .caseReversalReverted ≤ total .caseReversed at h1
  change total .caseReversed ≤ total .caseRecovered at h2
  refine ⟨fun hb => ?_, fun hb => ?_, ?_⟩
  · have hafter : heldAfter = held - min p.amount (netRecovered w.ledger p.invoiceId) := by
      simp only [heldAfter, held, heldNet, serve_reversal s env w pid hb, reduceCtorEq, and_false,
        false_and, if_false, true_and]
      split
      next => ring
      next h =>
        have : netRecovered w.ledger p.invoiceId = 0 := by linarith
        rw [this, min_eq_right hp.le]
        ring
    rw [hafter, hheld, ← hcap, sub_right_inj]
    rcases le_or_gt p.amount (netRecovered w.ledger p.invoiceId) with h | h
    · rw [min_eq_left h, min_eq_left (by linarith)]
      exact iff_of_true rfl (.inr h)
    · rw [min_eq_right h.le]
      constructor
      · intro he
        rcases min_choice p.amount
          (netRecovered w.ledger p.invoiceId + total .caseReversalReverted) with hm | hm
        · exact .inr (by linarith)
        · exact .inl (by linarith)
      · rintro (h' | h')
        · rw [h', add_zero, min_eq_right h.le]
        · exact absurd h' (not_le.2 h)
  · simp only [heldAfter, held, heldNet, serve_reinstatement s env w pid hb, reduceCtorEq,
      and_false, false_and, if_false, true_and, ← hback]
    split
    next => ring
    next h =>
      have : netReversed w.ledger p.invoiceId = 0 := by linarith
      rw [this, min_eq_right hp.le]
      ring
  · rw [hheld]
    constructor <;> intro h <;> linarith

end

/-- Recovered, then reversed: the reversal takes all of it. -/
theorem reversal_conservation_first :
    heldNet (serve Sample.service Sample.env
      (serveAll Sample.service Sample.env Sample.world [.execute Sample.stripe Sample.attempt])
      (.webhook (Sample.event "dp_1" (.paymentReversed (Sample.reversal 100))) none)).ledger
      "inv_1" = 0 := by
  have h := ((reversal_conservation Sample.service Sample.env () (fun _ => 1786881600000)
    [.execute Sample.stripe Sample.attempt]
    (by simp [Request.Positive, Sample.attempt, Sample.invoice])
    (Sample.event "dp_1" (.paymentReversed (Sample.reversal 100))) none
    (Sample.reversal 100) (by decide +kernel)).1 rfl).2 (.inl (by decide +kernel))
  exact h.trans (by decide +kernel)

/-- Recovered, reversed, won back, reversed again: the second reversal takes nothing. -/
theorem reversal_conservation_fails :
    let w := serveAll Sample.service Sample.env Sample.world
      [.execute Sample.stripe Sample.attempt,
        .webhook (Sample.event "dp_1" (.paymentReversed (Sample.reversal 100))) none,
        .webhook (Sample.event "won_1" (.paymentReversalReverted (Sample.reversal 100))) none]
    let w' := serve Sample.service Sample.env w
      (.webhook (Sample.event "dp_2" (.paymentReversed (Sample.reversal 100))) none)
    heldNet w.ledger "inv_1" = 100 ∧ heldNet w'.ledger "inv_1" = 100 ∧
      heldNet w'.ledger "inv_1" ≠ heldNet w.ledger "inv_1" - min 100 (heldNet w.ledger "inv_1") := by
  decide +kernel

end AX10M
