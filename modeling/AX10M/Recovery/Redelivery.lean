/-
  Reversal webhooks that arrive more than once.

  `handleEvent` keeps no record of the events it has handled: a redelivered reversal
  or reinstatement is capped like a new one.  Redeliveries are harmless exactly
  when each of them is spent, that is, finds nothing left under its cap.
-/
import AX10M.Recovery.Reversal

namespace AX10M

open Js Effects

/-- The request is the webhook of a reversal or of a reinstatement. -/
def Request.isReversal : Request → Bool
  | .webhook event _ =>
    match event.body with
    | .paymentReversed _ | .paymentReversalReverted _ => true
    | _ => false
  | _ => false

/-- Nothing is left for a reversal to reverse, or for a reinstatement to give back (or it is
    about nothing). -/
def Spent (ledger : List LedgerEntry) : Request → Prop
  | .webhook event _ =>
    match event.body with
    | .paymentReversed p => p.amount = 0 ∨
      amountOf ledger .caseRecovered p.invoiceId ≤ amountOf ledger .caseReversed p.invoiceId
    | .paymentReversalReverted p => p.amount = 0 ∨
      amountOf ledger .caseReversed p.invoiceId ≤ amountOf ledger .caseReversalReverted p.invoiceId
    | _ => False
  | _ => False

/-- Requests in the order they arrive, each marked if it is a redelivery: of a reversal or a
    reinstatement that arrived before. -/
def Redelivered (arrivals : List (Request × Bool)) : Prop :=
  ∀ before r after, arrivals = before ++ (r, true) :: after →
    r.isReversal ∧ r ∈ before.map Prod.fst

theorem Redelivered.isReversal {arrivals : List (Request × Bool)} (hr : Redelivered arrivals)
    {r : Request} (h : (r, true) ∈ arrivals) : r.isReversal := by
  obtain ⟨before, after, he⟩ := List.append_of_mem h
  exact (hr before r after he).1

/-- Each event once. -/
def once (arrivals : List (Request × Bool)) : List Request :=
  (arrivals.filter fun a => !a.2).map Prod.fst

/-- The operation does not look at the ledger. -/
def Blind (o : ServiceOp) : Prop := o ≠ .ledgerAll

/-- Two worlds that differ at most in ledgers with the same totals. -/
def SameBooks {σ : Type} (w w' : World σ) : Prop :=
  (∃ ledger, w' = { w with ledger }) ∧
    ∀ type i, amountOf w.ledger type i = amountOf w'.ledger type i

section

variable {σ : Type} (s : RecoveryCaseService) (env : Env σ)

theorem SameBooks.refl (w : World σ) : SameBooks w w := ⟨⟨w.ledger, rfl⟩, fun _ _ => rfl⟩

theorem SameBooks.trans {w w' w'' : World σ} (h : SameBooks w w') (h' : SameBooks w' w'') :
    SameBooks w w'' := by
  obtain ⟨⟨l, rfl⟩, ha⟩ := h
  obtain ⟨⟨l', rfl⟩, ha'⟩ := h'
  exact ⟨⟨l', rfl⟩, fun type i => (ha type i).trans (ha' type i)⟩

theorem SameBooks.heldNet {w w' : World σ} (h : SameBooks w w') (i : String) :
    heldNet w.ledger i = heldNet w'.ledger i := by
  simp only [AX10M.heldNet, h.2]

/-- No operation but a look at the ledger tells such worlds apart. -/
theorem sameBooks_op {o : ServiceOp} {w w' : World σ} (ho : Blind o) (h : SameBooks w w') :
    (World.handle env o w).1 = (World.handle env o w').1 ∧
      SameBooks (World.handle env o w).2 (World.handle env o w').2 := by
  obtain ⟨⟨l, rfl⟩, ha⟩ := h
  cases o with
  | ledgerAll => exact absurd rfl ho
  | ledgerAppend e =>
    refine ⟨rfl, ⟨l ++ [e], rfl⟩, fun type i => ?_⟩
    simp [World.handle, ha]
  | attemptCharge a i m k =>
    simp only [World.handle]
    split <;> exact ⟨rfl, ⟨l, rfl⟩, ha⟩
  | _ => exact ⟨rfl, ⟨l, rfl⟩, ha⟩

theorem sameBooks_exec {α : Type} {p : Async α} (hp : p.Uses Blind) {w w' : World σ}
    (h : SameBooks w w') :
    SameBooks (p.exec (World.handle env) w).2 (p.exec (World.handle env) w').2 :=
  (Prog.exec_rel SameBooks (fun _ _ _ ho hw => sameBooks_op env ho hw) hp h).2

theorem CaseOp.blind {invoice : Invoice} {types : List LedgerEventType} {attempt : Option ℕ}
    (o : ServiceOp) (h : CaseOp s invoice types attempt o) : Blind o := by
  rintro rfl
  exact h

/-- Only reversals and reinstatements look at the ledger. -/
theorem program_uses {r : Request} (hr : r.isReversal = false) : (s.program r).Uses Blind := by
  cases r with
  | webhook event pid =>
    simp only [RecoveryCaseService.program, RecoveryCaseService.handleEvent]
    cases hb : event.body with
    | paymentReversed p => simp [Request.isReversal, hb] at hr
    | paymentReversalReverted p => simp [Request.isReversal, hb] at hr
    | invoiceFailed payload =>
      cases hi : payload.invoice with
      | none => simp [hi]
      | some invoice =>
        simp only [hi]
        exact (s.handleFailure_uses event payload invoice).imp (CaseOp.blind s)
    | invoicePaid invoice =>
      cases invoice with
      | none => trivial
      | some invoice => exact ⟨by simp [Blind], fun _ => trivial⟩
    | _ => trivial
  | plan invoice method decline n =>
    exact ((s.planAttempt_uses invoice method decline n).imp (CaseOp.blind s)).bind
      fun _ => Prog.uses_pure _ ()
  | execute adapter p =>
    exact ((s.executeRecovery_uses adapter p).imp (CaseOp.blind s)).bind
      fun _ => Prog.uses_pure _ ()

/-- Reversals and reinstatements are moves. -/
theorem isReversal_iff {r : Request} :
    r.isReversal ↔ ∃ event pid m, r = .webhook event pid ∧ event.body.move = some m := by
  constructor
  · intro hr
    rcases r with ⟨event, pid⟩ | _ | _
    · cases hb : event.body <;> simp only [Request.isReversal, hb, Bool.false_eq_true] at hr
      · exact ⟨event, pid, _, rfl, by rw [hb]; rfl⟩
      · exact ⟨event, pid, _, rfl, by rw [hb]; rfl⟩
    · simp [Request.isReversal] at hr
    · simp [Request.isReversal] at hr
  · rintro ⟨event, pid, m, rfl, hm⟩
    rcases EventBody.move_eq_some hm with ⟨p, hb, -⟩ | ⟨p, hb, -⟩ <;>
      simp [Request.isReversal, hb]

/-- A move is spent if it is about nothing or nothing is left under its cap. -/
theorem spent_iff {ledger : List LedgerEntry} {event : CanonicalEvent} {pid : Option String}
    {m : Move} (hm : event.body.move = some m) :
    Spent ledger (.webhook event pid) ↔
      m.payload.amount = 0 ∨ m.cap ledger m.payload.invoiceId ≤ 0 := by
  rw [EventBody.cap_move hm, sub_nonpos]
  rcases EventBody.move_eq_some hm with ⟨p, hb, rfl⟩ | ⟨p, hb, rfl⟩ <;>
    simp [Spent, hb, Move.source]

theorem sameBooks_serve (r : Request) {w w' : World σ} (h : SameBooks w w') :
    SameBooks (serve s env w r) (serve s env w' r) := by
  cases hr : r.isReversal with
  | false => exact sameBooks_exec env (program_uses s hr) h
  | true =>
    obtain ⟨event, pid, m, rfl, hm⟩ := isReversal_iff.1 hr
    have hcap : m.cap w.ledger m.payload.invoiceId = m.cap w'.ledger m.payload.invoiceId := by
      simp only [EventBody.cap_move hm, h.2]
    obtain ⟨⟨l, rfl⟩, ha⟩ := h
    rw [serve_move s env _ pid hm, serve_move s env _ pid hm, ← hcap]
    split
    · exact ⟨⟨l, rfl⟩, ha⟩
    · exact ⟨⟨_, rfl⟩, fun type i => by simp [ha]⟩

/-- A spent reversal leaves the books as they are. -/
theorem sameBooks_of_spent (w : World σ) {r : Request} (hr : r.isReversal)
    (h : Spent w.ledger r) : SameBooks w (serve s env w r) := by
  obtain ⟨event, pid, m, rfl, hm⟩ := isReversal_iff.1 hr
  refine ⟨?_, fun type i => ?_⟩
  · rw [serve_move s env w pid hm]
    split <;> exact ⟨_, rfl⟩
  · rw [amountOf_serve_move s env w pid hm, left_eq_add]
    split
    next hc =>
      obtain ⟨rfl, -, hc⟩ := hc
      rcases (spent_iff hm).1 h with h | h
      · rw [h, min_eq_left hc.le]
      · exact absurd h (not_le.2 hc)
    next => rfl

/-- A reversal that is not spent moves the held amount. -/
theorem heldNet_ne_of_not_spent (w : World σ) {r : Request} (hr : r.isReversal)
    (h : ¬ Spent w.ledger r) : ∃ i, heldNet (serve s env w r).ledger i ≠ heldNet w.ledger i := by
  obtain ⟨event, pid, m, rfl, hm⟩ := isReversal_iff.1 hr
  rw [spent_iff hm, not_or, not_le] at h
  obtain ⟨ha, hc⟩ := h
  have hmin : min m.payload.amount (m.cap w.ledger m.payload.invoiceId) ≠ 0 := by
    rcases min_choice m.payload.amount (m.cap w.ledger m.payload.invoiceId) with h | h <;> rw [h]
    · exact ha
    · exact hc.ne'
  refine ⟨m.payload.invoiceId, fun he => hmin ?_⟩
  rcases EventBody.move_eq_some hm with ⟨p, hb, rfl⟩ | ⟨p, hb, rfl⟩ <;>
  · simp only [heldNet, amountOf_serve_move s env w pid hm, reduceCtorEq, and_false, false_and,
      if_false, true_and, if_pos hc] at he
    linarith

/-- If all redeliveries are spent when they arrive, the books are those of each event once. -/
theorem sameBooks_once (w : World σ) {arrivals : List (Request × Bool)}
    (hr : ∀ r, (r, true) ∈ arrivals → r.isReversal)
    (h : ∀ before r after, arrivals = before ++ (r, true) :: after →
      Spent (serveAll s env w (before.map Prod.fst)).ledger r) :
    SameBooks (serveAll s env w (once arrivals)) (serveAll s env w (arrivals.map Prod.fst)) := by
  induction arrivals using List.reverseRecOn with
  | nil => exact SameBooks.refl w
  | append_singleton arrivals a ih =>
    have ih := ih (fun r hr' => hr r (List.mem_append_left _ hr'))
      fun before r after he => h before r (after ++ [a]) (by simp [he])
    obtain ⟨r, again⟩ := a
    rw [List.map_append, serveAll_append]
    cases again with
    | false =>
      have : once (arrivals ++ [(r, false)]) = once arrivals ++ [r] := by simp [once]
      rw [this, serveAll_append]
      exact sameBooks_serve s env r ih
    | true =>
      have : once (arrivals ++ [(r, true)]) = once arrivals := by simp [once]
      rw [this]
      exact ih.trans (sameBooks_of_spent s env _ (hr r (by simp)) (h arrivals r [] rfl))

/-- Redelivered reversals count once, at every point of a run, exactly if each of them finds
    nothing left to reverse or to give back. -/
theorem redelivered_reversals (w : World σ) (arrivals : List (Request × Bool))
    (hr : Redelivered arrivals) :
    (∀ before after, arrivals = before ++ after → ∀ i,
      heldNet (serveAll s env w (before.map Prod.fst)).ledger i =
        heldNet (serveAll s env w (once before)).ledger i) ↔
    ∀ before r after, arrivals = before ++ (r, true) :: after →
      Spent (serveAll s env w (before.map Prod.fst)).ledger r := by
  constructor
  · intro h before
    -- on the length of the run so far: up to here the books are those of each event once
    induction hn : before.length using Nat.strong_induction_on generalizing before with
    | _ n ih =>
      intro r after he
      have hspent : ∀ before' r' after', before = before' ++ (r', true) :: after' →
          Spent (serveAll s env w (before'.map Prod.fst)).ledger r' := by
        intro before' r' after' hb
        refine ih before'.length ?_ before' rfl r' (after' ++ (r, true) :: after) ?_
        · rw [← hn, hb]
          simp
        · rw [he, hb]
          simp
      have hr' : ∀ r', (r', true) ∈ before → r'.isReversal := fun r' h' =>
        hr.isReversal (he ▸ List.mem_append_left _ h')
      have hsame := sameBooks_once s env w hr' hspent
      by_contra hs
      obtain ⟨i, hi⟩ := heldNet_ne_of_not_spent s env _ (hr before r after he).1 hs
      apply hi
      have h1 := h (before ++ [(r, true)]) after (by simp [he]) i
      rw [List.map_append, serveAll_append] at h1
      have h2 : once (before ++ [(r, true)]) = once before := by simp [once]
      rw [h2] at h1
      exact h1.trans (hsame.heldNet i)
  · intro h before after he i
    have hr' : ∀ r', (r', true) ∈ before → r'.isReversal := fun r' h' =>
      hr.isReversal (he ▸ List.mem_append_left _ h')
    exact ((sameBooks_once s env w hr' fun before' r' after' hb =>
      h before' r' (after' ++ after) (by rw [he, hb]; simp)).heldNet i).symm

end

/-- A full refund that arrives twice counts once. -/
theorem redelivered_reversals_full :
    let refund := Request.webhook
      (Sample.event "re_1" (.paymentReversed (Sample.reversal 100))) none
    heldNet (serveAll Sample.service Sample.env Sample.world
        [.execute Sample.stripe Sample.attempt, refund, refund]).ledger "inv_1" =
      heldNet (serveAll Sample.service Sample.env Sample.world
        [.execute Sample.stripe Sample.attempt, refund]).ledger "inv_1" := by
  intro refund
  have hlast : ∀ before r after,
      [(Request.execute Sample.stripe Sample.attempt, false), (refund, false), (refund, true)] =
        before ++ (r, true) :: after →
      r = refund ∧ before = [(.execute Sample.stripe Sample.attempt, false), (refund, false)] := by
    intro before r after h
    rcases before with _ | ⟨a, _ | ⟨b, _ | ⟨c, before⟩⟩⟩ <;> simp at h
    obtain ⟨rfl, rfl, rfl, -⟩ := h
    exact ⟨rfl, rfl⟩
  refine (redelivered_reversals Sample.service Sample.env Sample.world
    [(.execute Sample.stripe Sample.attempt, false), (refund, false), (refund, true)] ?_).2 ?_
    [(.execute Sample.stripe Sample.attempt, false), (refund, false), (refund, true)] [] rfl "inv_1"
  · intro before r after h
    obtain ⟨rfl, rfl⟩ := hlast before r after h
    exact ⟨rfl, by simp⟩
  · intro before r after h
    obtain ⟨rfl, rfl⟩ := hlast before r after h
    exact .inr (by decide +kernel)

/-- A partial refund that arrives twice counts twice. -/
theorem redelivered_reversals_fails :
    let refund := Request.webhook
      (Sample.event "re_1" (.paymentReversed (Sample.reversal 30))) none
    heldNet (serveAll Sample.service Sample.env Sample.world
        [.execute Sample.stripe Sample.attempt, refund, refund]).ledger "inv_1" = 40 ∧
      heldNet (serveAll Sample.service Sample.env Sample.world
        [.execute Sample.stripe Sample.attempt, refund]).ledger "inv_1" = 70 := by
  decide +kernel

end AX10M
