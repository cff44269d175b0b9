/-
  Deliveries of reminders that take turns on a shared store of keys.

  A delivery asks the store whether its key was sent, sends, and has the key recorded, each in a
  step of its own: it may wait in between, or die.  So does the delivery of an invoice's stage to
  accounts payable (`billing/invoice-delivery.service.ts`).

  `sends_once`: if no live delivery asks in vain for a key that was sent, or that another is about
  to send, each key is sent at most once; and after a delivery that does, a key can be sent twice.
-/
import AX10M.Billing.Delivery
import AX10M.Effects.Threads
import AX10M.Recovery.Run

namespace AX10M

open Js Effects

/-- The service that delivers invoices; `sender` says whether a provider is wired. -/
structure InvoiceDeliveryService where
  live : Bool
  sender : Bool

/-- Whether messages leave the system. -/
def InvoiceDeliveryService.sends (service : InvoiceDeliveryService) : Bool :=
  service.live && service.sender

/-- Deliver a stage of an invoice, in steps. -/
def InvoiceDeliveryService.deliverStage (service : InvoiceDeliveryService)
    (invoice : BillingInvoice) (stage : InvoiceDunningStage) (asOfIso : String) :
    Async InvoiceDeliveryResult := do
  let asOf := invoiceAsOf invoice asOfIso
  if asOf.billTo.apContactEmail = "" then
    return { invoiceNumber := invoice.invoiceNumber
             stage := some stage
             status := .skipped
             reason := some "no AP contact email" }
  else
    let key := dedupeKey invoice.invoiceNumber stage
    let sent : Bool ← call (.sendDedupeHas key)
    if sent then
      return { invoiceNumber := invoice.invoiceNumber
               stage := some stage
               status := .duplicate }
    else
      let res ← call (.send service.sends (invoiceMessage asOf stage) (apRecipient asOf))
      if res.status = .sent then call (.sendDedupeRecord key)
      return { invoiceNumber := invoice.invoiceNumber
               stage := some stage
               status := .ofSend res.status
               provider := some res.provider
               reason := res.error }

/-- A delivery of a reminder, by one of the two services. -/
inductive ReminderDelivery where
  | dunning (s : RecoveryCaseService) (message : DunningMessage) (invoice : Invoice)
      (attemptNumber : ℕ) (declineCode : DeclineCode) (customer : Option Customer)
      (localHour : Option ℤ)
  | stage (service : InvoiceDeliveryService) (invoice : BillingInvoice)
      (stage : InvoiceDunningStage) (asOfIso : String)

namespace ReminderDelivery

/-- The key of a reminder. -/
def key : ReminderDelivery → String
  | dunning _ message invoice n _ _ _ => sendKey invoice n message.channel
  | stage _ invoice due _ => dedupeKey invoice.invoiceNumber due

/-- Whether messages leave the system. -/
def live : ReminderDelivery → Bool
  | dunning s _ _ _ _ _ _ => s.liveComms
  | stage service _ _ _ => service.sends

/-- The code of a delivery. -/
def program : ReminderDelivery → Async Unit
  | dunning s message invoice n declineCode customer localHour => do
    let _ ← s.deliverDunning message invoice n declineCode customer localHour
  | stage service invoice due asOfIso => do
    let _ ← service.deliverStage invoice due asOfIso

end ReminderDelivery

/-- What a step may be given from outside: the wall clock, and the reply of the sender. -/
structure Answer where
  now : ℤ
  reply : SendResult

/-- The meaning of the operations of a delivery on the store of keys; what is not live is a dry
    run. -/
def dedupe (a : Answer) : Handler ServiceSig (List String)
  | .now, keys => (some a.now, keys)
  | .sendDedupeHas key, keys => (some (decide (key ∈ keys)), keys)
  | .sendDedupeRecord key, keys => (some (), keys ++ [key])
  | .send live message recipient, keys =>
    (some (if live then a.reply else dryRunDunningSender message recipient), keys)
  | _, keys => (none, keys)

/-- A delivery that is not interrupted does what `deliverStage` computes. -/
theorem deliverStage_exec (service : InvoiceDeliveryService) (invoice : BillingInvoice)
    (stage : InvoiceDunningStage) (asOfIso : String) (a : Answer) (keys : List String) :
    (service.deliverStage invoice stage asOfIso).exec (dedupe a) keys =
      let r := deliverStage (deliverySender service.sends (some fun _ _ => a.reply)) keys invoice
        stage asOfIso
      (some r.1, r.2) := by
  unfold InvoiceDeliveryService.deliverStage AX10M.deliverStage
  by_cases hemail : (invoiceAsOf invoice asOfIso).billTo.apContactEmail = ""
  · simp only [hemail, if_true]
    rfl
  · simp only [hemail, if_false, call, Prog.bind_eq, Prog.op_bind, Prog.pure_bind]
    have hhas : dedupe a (.sendDedupeHas (dedupeKey invoice.invoiceNumber stage)) keys =
      (some (decide (dedupeKey invoice.invoiceNumber stage ∈ keys)), keys) := rfl
    rw [Prog.exec_op_of hhas]
    by_cases hkey : dedupeKey invoice.invoiceNumber stage ∈ keys
    · simp only [hkey, decide_true, if_true]
      rfl
    · simp only [hkey, decide_false, Bool.false_eq_true, if_false]
      have hsend : dedupe a (.send service.sends
          (invoiceMessage (invoiceAsOf invoice asOfIso) stage)
          (apRecipient (invoiceAsOf invoice asOfIso))) keys =
          (some (deliverySender service.sends (some fun _ _ => a.reply)
            (invoiceMessage (invoiceAsOf invoice asOfIso) stage)
            (apRecipient (invoiceAsOf invoice asOfIso))), keys) := by
        cases service.sends <;> rfl
      rw [Prog.exec_op_of hsend]
      split_ifs with hsent
      · rfl
      · rfl

/-! ## How far a delivery is -/

/-- The delivery has ended. -/
def Ended : Async Unit → Prop
  | .pure _ => True
  | .op _ _ => False

/-- The key is to be recorded, and that is all. -/
def Recording (key : String) : Async Unit → Prop
  | .op (.sendDedupeRecord key') rest => key' = key ∧ ∀ u, Ended (rest u)
  | _ => False

/-- The message is to be sent, and its key recorded if it was. -/
def Sending (d : ReminderDelivery) : Async Unit → Prop
  | .op (.send live _ _) rest => live = d.live ∧
      ∀ r : SendResult, (r.status = .sent → Recording d.key (rest r)) ∧
        (r.status ≠ .sent → Ended (rest r))
  | _ => False

/-- The store is still to be asked for the key, before anything is sent. -/
def Asking (d : ReminderDelivery) : Async Unit → Prop
  | .pure _ => True
  | .op .now rest => ∀ t, Asking d (rest t)
  | .op (.sendDedupeHas key) rest => key = d.key ∧ Ended (rest true) ∧ Sending d (rest false)
  | .op _ _ => False

/-- What both services do about a key: ask, send, and record what was sent. -/
theorem asking_of_ask {α : Type} {d : ReminderDelivery} {message : DunningMessage}
    {recipient : DunningRecipient} (seen : α) (result : SendResult → α) :
    Asking d ((do
      let sent : Bool ← call (.sendDedupeHas d.key)
      if sent then return seen
      else
        let r ← call (.send d.live message recipient)
        if r.status = .sent then call (.sendDedupeRecord d.key)
        return result r : Async α).bind fun _ => .pure ()) := by
  refine ⟨rfl, trivial, rfl, ?_⟩
  intro r
  constructor
  · intro hr
    simp only [call, Prog.bind_eq, Prog.op_bind, Prog.pure_bind, hr, if_true]
    exact ⟨rfl, fun _ => trivial⟩
  · intro hr
    simp only [call, Prog.bind_eq, Prog.op_bind, Prog.pure_bind, hr, if_false]
    trivial

/-- A delivery asks before it sends, and records what was sent. -/
theorem ReminderDelivery.program_asking (d : ReminderDelivery) : Asking d d.program := by
  cases d with
  | stage service invoice due asOfIso =>
    unfold ReminderDelivery.program InvoiceDeliveryService.deliverStage
    by_cases hemail : (invoiceAsOf invoice asOfIso).billTo.apContactEmail = ""
    · simp only [hemail, if_true]
      trivial
    · simp only [hemail, if_false]
      exact asking_of_ask (d := .stage service invoice due asOfIso) _ _
  | dunning s message invoice n declineCode customer localHour =>
    unfold ReminderDelivery.program RecoveryCaseService.deliverDunning
    cases hsender : s.dunningSender with
    | false =>
      simp only [hsender, Bool.not_false, if_true]
      trivial
    | true =>
      simp only [hsender, Bool.not_true, Bool.false_eq_true, if_false]
      -- the hour is given, or read off the clock
      have hclock : ∀ {β : Type} (rest : ℤ → Async β) (d : ReminderDelivery),
          (∀ hour, Asking d ((rest hour).bind fun _ => .pure ())) →
          Asking d (((RecoveryCaseService.localHourOr localHour).bind rest).bind
            fun _ => .pure ()) := by
        intro β rest d hrest
        cases localHour with
        | none => exact fun t => hrest _
        | some hour => exact hrest hour
      refine hclock _ _ ?_
      intro hour
      split
      · trivial
      · split
        · trivial
        · exact asking_of_ask
            (d := .dunning s message invoice n declineCode customer localHour) _ _

/-! ## Deliveries that take turns -/

/-- Deliveries on a store of keys. -/
abbrev Deliveries := Pool ServiceSig (List String) ReminderDelivery Unit

/-- No delivery yet, on a store with some keys. -/
def Deliveries.start (keys : List String) : Deliveries := ⟨keys, [], []⟩

/-- The deliveries after some events. -/
abbrev Deliveries.after (s : Deliveries) (events : List (PoolEvent ReminderDelivery Answer)) :
    Deliveries :=
  s.run ReminderDelivery.program dedupe events

/-- A message under the key was sent. -/
def sentFor (key : String) (x : ReminderDelivery × Performed ServiceSig (List String)) : Bool :=
  decide (x.1.key = key) &&
    match x.2 with
    | ⟨.send _ _ _, some r, _⟩ => decide (r.status = .sent)
    | _ => false

/-- The operation sends a message that leaves the system. -/
def sendsLive : ServiceOp → Bool
  | .send live _ _ => live
  | _ => false

/-- A live message under the key is the next thing that the thread sends. -/
def aboutToSend (key : String) (t : Thread ServiceSig ReminderDelivery Unit) : Bool :=
  decide (t.task.key = key) && (t.rest.bind Prog.next).any sendsLive

/-- How often a reminder was sent. -/
def Deliveries.sends (s : Deliveries) (key : String) : ℕ := s.log.countP (sentFor key)

/-- How often a reminder was sent, and is about to be. -/
def Deliveries.committed (s : Deliveries) (key : String) : ℕ :=
  s.stock (sentFor key) (aboutToSend key)

/-- A live delivery asks for a key that is recorded, or that was not sent and is not about to be. -/
def AsksAlone (s : Deliveries) : PoolEvent ReminderDelivery Answer → Prop
  | .perform k _ => ∀ t, s.threads[k]? = some t → t.task.live = true →
      t.rest.bind Prog.next = some (.sendDedupeHas t.task.key) →
      t.task.key ∈ s.world ∨ s.committed t.task.key = 0
  | _ => True

/-- The rest of a delivery, however far it is. -/
def Delivering (d : ReminderDelivery) (p : Async Unit) : Prop :=
  Asking d p ∨ Sending d p ∨ Recording d.key p ∨ Ended p

section

variable {d : ReminderDelivery} {p : Async Unit} {key : String}

theorem Asking.not_about (h : Asking d p) : aboutToSend key ⟨d, some p⟩ = false := by
  cases p with
  | pure a => exact Bool.and_false _
  | op o rest =>
    cases o with
    | send live message recipient => exact h.elim
    | _ => exact Bool.and_false _

theorem Recording.not_about (h : Recording d.key p) : aboutToSend key ⟨d, some p⟩ = false := by
  cases p with
  | pure a => exact Bool.and_false _
  | op o rest =>
    cases o with
    | send live message recipient => exact h.elim
    | _ => exact Bool.and_false _

theorem Ended.not_about (h : Ended p) : aboutToSend key ⟨d, some p⟩ = false := by
  cases p with
  | pure a => exact Bool.and_false _
  | op o rest => exact h.elim

theorem Sending.about_iff (h : Sending d p) :
    aboutToSend key ⟨d, some p⟩ = true ↔ d.key = key ∧ d.live = true := by
  cases p with
  | pure a => exact h.elim
  | op o rest =>
    cases o with
    | send live message recipient =>
      rw [← h.1]
      simp [aboutToSend, Prog.next, sendsLive]
    | _ => exact h.elim

/-- A message that is sent is live. -/
theorem live_of_sent {a : Answer} {live : Bool} {message : DunningMessage}
    {recipient : DunningRecipient}
    (h : (if live then a.reply else dryRunDunningSender message recipient).status = .sent) :
    live = true := by
  cases live with
  | true => rfl
  | false =>
    simp only [Bool.false_eq_true, if_false, dryRunDunningSender] at h
    split at h <;> cases h

/-- A step of a delivery commits no further send of a key, unless it asks the store for the key in
    vain. -/
theorem Delivering.perform {o : ServiceOp} {rest : o.Res → Async Unit}
    (h : Delivering d (.op o rest)) (a : Answer) (keys : List String) :
    (∀ p, (dedupe a o keys).1.map rest = some p → Delivering d p) ∧
    ∀ key,
      (if sentFor key (d, ⟨o, (dedupe a o keys).1, keys⟩) then 1 else 0) +
          (if aboutToSend key ⟨d, (dedupe a o keys).1.map rest⟩ then 1 else 0) ≤
        (if aboutToSend key ⟨d, some (.op (S := ServiceSig) o rest)⟩ then 1 else 0) ∨
      o = .sendDedupeHas key ∧ d.key = key ∧ d.live = true ∧ key ∉ keys ∧
        (if sentFor key (d, ⟨o, (dedupe a o keys).1, keys⟩) then 1 else 0) = 0 := by
  cases o with
  | now =>
    have hasking : ∀ t, Asking d (rest t) := by
      rcases h with h | h | h | h
      · exact h
      all_goals exact h.elim
    refine ⟨?_, ?_⟩
    · rintro p hp
      obtain rfl := Option.some.inj hp
      exact .inl (hasking a.now)
    · intro key
      refine .inl ?_
      have hready : aboutToSend key ⟨d, some (rest a.now)⟩ = false := (hasking a.now).not_about
      simp only [dedupe, Option.map_some, hready, sentFor, Bool.and_false, Bool.false_eq_true,
        if_false]
      exact Nat.zero_le _
  | sendDedupeHas key' =>
    obtain ⟨rfl, hseen, hnew⟩ : key' = d.key ∧ Ended (rest true) ∧ Sending d (rest false) := by
      rcases h with h | h | h | h
      · exact h
      all_goals exact h.elim
    by_cases hkey : d.key ∈ keys
    · simp only [dedupe, hkey, decide_true, Option.map_some, Option.some.injEq, forall_eq']
      refine ⟨.inr (.inr (.inr hseen)), ?_⟩
      intro key
      refine .inl ?_
      have hready : aboutToSend key ⟨d, some (rest true)⟩ = false := hseen.not_about
      simp only [hready, sentFor, Bool.and_false, Bool.false_eq_true, if_false]
      exact Nat.zero_le _
    · simp only [dedupe, hkey, decide_false, Option.map_some, Option.some.injEq, forall_eq']
      refine ⟨.inr (.inl hnew), ?_⟩
      intro key
      by_cases hready : aboutToSend key ⟨d, some (rest false)⟩ = true
      · obtain ⟨rfl, hlive⟩ := hnew.about_iff.1 hready
        exact .inr ⟨rfl, rfl, hlive, hkey, by simp only [sentFor, Bool.and_false,
          Bool.false_eq_true, if_false]⟩
      · refine .inl ?_
        simp only [hready, sentFor, Bool.and_false, Bool.false_eq_true, if_false]
        exact Nat.zero_le _
  | sendDedupeRecord key' =>
    obtain ⟨rfl, hended⟩ : key' = d.key ∧ ∀ u, Ended (rest u) := by
      rcases h with h | h | h | h
      · exact h.elim
      · exact h.elim
      · exact h
      · exact h.elim
    refine ⟨?_, ?_⟩
    · rintro p hp
      obtain rfl := Option.some.inj hp
      exact .inr (.inr (.inr (hended ())))
    · intro key
      refine .inl ?_
      have hready : aboutToSend key ⟨d, some (rest ())⟩ = false := (hended ()).not_about
      simp only [dedupe, Option.map_some, hready, sentFor, Bool.and_false, Bool.false_eq_true,
        if_false]
      exact Nat.zero_le _
  | send live message recipient =>
    have hsending : Sending d (.op (S := ServiceSig) (.send live message recipient) rest) := by
      rcases h with h | h | h | h
      · exact h.elim
      · exact h
      all_goals exact h.elim
    obtain ⟨hlive, hrest⟩ := id hsending
    let r := if live then a.reply else dryRunDunningSender message recipient
    have hafter : Recording d.key (rest r) ∨ Ended (rest r) := by
      by_cases hr : r.status = .sent
      · exact .inl ((hrest r).1 hr)
      · exact .inr ((hrest r).2 hr)
    refine ⟨?_, ?_⟩
    · rintro p hp
      obtain rfl := Option.some.inj hp
      exact .inr (.inr hafter)
    · intro key
      refine .inl ?_
      have hready : aboutToSend key ⟨d, some (rest r)⟩ = false := by
        rcases hafter with h | h
        · exact h.not_about
        · exact h.not_about
      show (if sentFor key (d, ⟨.send live message recipient, some r, keys⟩) then 1 else 0) +
        (if aboutToSend key ⟨d, some (rest r)⟩ then 1 else 0) ≤ _
      rw [hready]
      by_cases hsent : sentFor key (d, ⟨.send live message recipient, some r, keys⟩) = true
      · obtain ⟨hkey, hstatus⟩ : d.key = key ∧ r.status = .sent := by
          simpa only [sentFor, Bool.and_eq_true, decide_eq_true_eq] using hsent
        have hl : live = true := live_of_sent hstatus
        rw [if_pos hsent, if_pos (hsending.about_iff.2 ⟨hkey, hlive ▸ hl⟩)]
        exact le_rfl
      · rw [if_neg hsent]
        exact Nat.zero_le _
  | _ =>
    rcases h with h | h | h | h
    all_goals exact h.elim

/-! ## Runs -/

/-- The threads are deliveries. -/
def Deliveries.Wf (s : Deliveries) : Prop :=
  ∀ t ∈ s.threads, ∀ p, t.rest = some p → Delivering t.task p

/-- Every thread of a pool with another one in its place is a delivery, if that one is. -/
theorem Deliveries.Wf.set {s : Deliveries} (h : s.Wf) {k : ℕ}
    {t : Thread ServiceSig ReminderDelivery Unit} (ht : ∀ p, t.rest = some p → Delivering t.task p)
    {keys : List String}
    {log : List (ReminderDelivery × Performed ServiceSig (List String))} :
    Deliveries.Wf ⟨keys, s.threads.set k t, log⟩ := by
  intro t' ht' p hp
  rcases List.mem_or_eq_of_mem_set ht' with ht' | rfl
  · exact h t' ht' p hp
  · exact ht p hp

theorem Deliveries.Wf.step {s : Deliveries} (h : s.Wf) (e : PoolEvent ReminderDelivery Answer) :
    Deliveries.Wf (Pool.after ReminderDelivery.program dedupe s e) := by
  rcases Pool.after_cases ReminderDelivery.program dedupe s e with
    ⟨d, rfl, hs⟩ | ⟨k, a, d, o, rest, rfl, hk, hs⟩ | ⟨k, t, rfl, hk, hs⟩ | hs
  · rw [hs]
    intro t ht p hp
    rcases List.mem_append.1 ht with ht | ht
    · exact h t ht p hp
    · obtain rfl := List.mem_singleton.1 ht
      obtain rfl := Option.some.inj hp
      exact .inl d.program_asking
  · rw [hs]
    exact h.set ((h _ (List.mem_of_getElem? hk) _ rfl).perform a s.world).1
  · rw [hs]
    refine h.set ?_
    rintro p hp
    cases hp
  · rw [hs]
    exact h

/-- An event commits no further send of a key, unless a delivery asks the store for it in vain. -/
theorem committed_step {s : Deliveries} (h : s.Wf) (e : PoolEvent ReminderDelivery Answer)
    (key : String) :
    Deliveries.committed (Pool.after ReminderDelivery.program dedupe s e) key ≤ s.committed key ∨
    Deliveries.committed (Pool.after ReminderDelivery.program dedupe s e) key ≤ s.committed key + 1 ∧
      ∃ k a t, e = .perform k a ∧ s.threads[k]? = some t ∧ t.task.live = true ∧ t.task.key = key ∧
        t.rest.bind Prog.next = some (.sendDedupeHas key) ∧ key ∉ s.world := by
  rcases Pool.after_cases ReminderDelivery.program dedupe s e with
    ⟨d, rfl, hs⟩ | ⟨k, a, d, o, rest, rfl, hk, hs⟩ | ⟨k, t, rfl, hk, hs⟩ | hs
  · refine .inl ?_
    rw [hs]
    have hready : aboutToSend key ⟨d, some d.program⟩ = false := d.program_asking.not_about
    simp only [Deliveries.committed, Pool.stock, List.countP_append, List.countP_singleton, hready,
      Bool.false_eq_true, if_false]
    exact le_rfl
  · have hstock := Pool.stock_perform (sentFor key) (aboutToSend key)
      ⟨d, (dedupe a o s.world).1.map rest⟩ (dedupe a o s.world).2
      (d, ⟨o, (dedupe a o s.world).1, s.world⟩) hk
    have hdelivering : Delivering d (.op (S := ServiceSig) o rest) :=
      h _ (List.mem_of_getElem? hk) _ rfl
    rw [hs]
    unfold Deliveries.committed
    rcases (hdelivering.perform a s.world).2 key with hle | ⟨rfl, hkey, hlive, hnew, hdone⟩
    · refine .inl ?_
      omega
    · refine .inr ⟨?_, k, a, _, rfl, hk, hlive, hkey, rfl, hnew⟩
      have hone : (if aboutToSend key ⟨d, (dedupe a (.sendDedupeHas key) s.world).1.map rest⟩
          then 1 else 0) ≤ 1 := by
        split_ifs
        · exact le_rfl
        · exact Nat.zero_le 1
      omega
  · refine .inl ?_
    rw [hs]
    have hset := Pool.countP_set (aboutToSend key)
      (⟨t.task, none⟩ : Thread ServiceSig ReminderDelivery Unit) hk
    have hready : aboutToSend key ⟨t.task, none⟩ = false := Bool.and_false _
    rw [hready] at hset
    simp only [Deliveries.committed, Pool.stock]
    simp only [Bool.false_eq_true, if_false] at hset
    omega
  · rw [hs]
    exact .inl le_rfl

theorem Deliveries.Wf.run {s : Deliveries} (h : s.Wf)
    (events : List (PoolEvent ReminderDelivery Answer)) : (s.after events).Wf :=
  Pool.run_inv Deliveries.Wf (fun _ _ => True) (fun _ e hs _ => hs.step e) h fun _ _ _ => trivial

/-- What is about to be sent can be sent. -/
theorem exists_sends {s : Deliveries} (h : s.Wf) (key : String) :
    ∃ events, s.committed key ≤ (s.after events).sends key := by
  -- by induction on the threads that are about to send
  induction hn : s.threads.countP (aboutToSend key) generalizing s with
  | zero =>
    refine ⟨[], ?_⟩
    show s.log.countP (sentFor key) + s.threads.countP (aboutToSend key) ≤
      s.log.countP (sentFor key)
    rw [hn, Nat.add_zero]
  | succ n ih =>
    have hpos : 0 < s.threads.countP (aboutToSend key) := by omega
    obtain ⟨t, ht, hready⟩ := List.countP_pos_iff.1 hpos
    obtain ⟨k, hk⟩ := List.getElem?_of_mem ht
    obtain ⟨d, rest⟩ := t
    obtain ⟨p, rfl⟩ : ∃ p, rest = some p := by
      cases rest with
      | none =>
        rw [aboutToSend, Option.bind_none, Option.any_none, Bool.and_false] at hready
        cases hready
      | some p => exact ⟨p, rfl⟩
    have hsending : Sending d p := by
      rcases h _ ht p rfl with hp | hp | hp | hp
      · rw [hp.not_about] at hready
        cases hready
      · exact hp
      · rw [hp.not_about] at hready
        cases hready
      · rw [hp.not_about] at hready
        cases hready
    obtain ⟨hkey, hlive⟩ := hsending.about_iff.1 hready
    cases p with
    | pure a => exact hsending.elim
    | op o rest =>
      cases o with
      | send live message recipient =>
        let a : Answer := ⟨0, { status := .sent, provider := "provider" }⟩
        let s' : Deliveries := Pool.after ReminderDelivery.program dedupe s (.perform k a)
        have hl : live = true := hsending.1.trans hlive
        subst hl
        have hs' : s' = ⟨s.world, s.threads.set k ⟨d, some (rest a.reply)⟩,
            s.log ++ [(d, ⟨.send true message recipient, some a.reply, s.world⟩)]⟩ := by
          simp only [s', Pool.after, hk]
          rfl
        have hquiet : aboutToSend key ⟨d, some (rest a.reply)⟩ = false :=
          ((hsending.2 a.reply).1 rfl).not_about
        have hdone : sentFor key
            (d, ⟨.send true message recipient, some a.reply, s.world⟩) = true := by
          simp only [sentFor, hkey, decide_true, Bool.true_and, a]
        have hset := Pool.countP_set (aboutToSend key)
          (⟨d, some (rest a.reply)⟩ : Thread ServiceSig ReminderDelivery Unit) hk
        have hstock := Pool.stock_perform (sentFor key) (aboutToSend key)
          ⟨d, some (rest a.reply)⟩ s.world
          (d, ⟨.send true message recipient, some a.reply, s.world⟩) hk
        rw [hquiet, hready] at hset hstock
        rw [hdone] at hstock
        rw [← hs'] at hstock
        have hcount : s'.threads.countP (aboutToSend key) = n := by
          simp only [Bool.false_eq_true, if_false, if_true] at hset
          rw [hs']
          show (s.threads.set k _).countP (aboutToSend key) = n
          omega
        obtain ⟨events, hevents⟩ := ih (h.step (.perform k a)) hcount
        refine ⟨.perform k a :: events, ?_⟩
        refine Nat.le_trans (Nat.le_of_eq ?_) hevents
        simp only [Bool.false_eq_true, if_false, if_true] at hstock
        show s.stock (sentFor key) (aboutToSend key) = s'.stock (sentFor key) (aboutToSend key)
        omega
      | _ => exact hsending.elim

/-- Nothing was sent in the beginning. -/
theorem Deliveries.start_wf (keys : List String) : (Deliveries.start keys).Wf := by
  intro t ht
  cases ht

/-- No key is committed twice by deliveries that ask alone. -/
theorem committed_le_one {keys : List String} {events : List (PoolEvent ReminderDelivery Answer)}
    (h : ∀ pre e, pre ++ [e] <+: events → AsksAlone ((Deliveries.start keys).after pre) e)
    (key : String) : ((Deliveries.start keys).after events).committed key ≤ 1 := by
  have hinv : ((Deliveries.start keys).after events).Wf ∧
      ((Deliveries.start keys).after events).committed key ≤ 1 := by
    refine Pool.run_inv
      (fun s => Deliveries.Wf s ∧ Deliveries.committed s key ≤ 1) AsksAlone ?_ ?_ h
    · rintro s e ⟨hwf, hle⟩ hok
      refine ⟨hwf.step e, ?_⟩
      rcases committed_step hwf e key with
        hstep | ⟨hstep, k, a, t, rfl, hk, hlive, rfl, hnext, hnew⟩
      · exact hstep.trans hle
      · rcases hok t hk hlive hnext with hmem | hzero
        · exact absurd hmem hnew
        · rw [hzero] at hstep
          exact hstep
    · exact ⟨Deliveries.start_wf keys, Nat.zero_le 1⟩
  exact hinv.2

/-- A delivery that asks in vain for a key that is committed commits it once more. -/
theorem exists_sent_twice {s : Deliveries} (h : s.Wf) {e : PoolEvent ReminderDelivery Answer}
    (he : ¬ AsksAlone s e) : ∃ later key, 2 ≤ (s.after (e :: later)).sends key := by
  cases e with
  | spawn d => exact absurd trivial he
  | die k => exact absurd trivial he
  | perform k a =>
    simp only [AsksAlone, not_forall, not_or] at he
    obtain ⟨⟨d, rest⟩, hk, hlive, hnext, hnew, hcommitted⟩ := he
    dsimp only at hlive hnext hnew hcommitted
    let s' : Deliveries := Pool.after ReminderDelivery.program dedupe s (.perform k a)
    obtain ⟨p, rfl, hp⟩ := Option.bind_eq_some_iff.1 hnext
    have htwo : 2 ≤ s'.committed d.key := by
      cases p with
      | pure u => cases hp
      | op o rest =>
        obtain rfl : o = .sendDedupeHas d.key := Option.some.inj hp
        have hasking : Asking d (.op (S := ServiceSig) (.sendDedupeHas d.key) rest) := by
          rcases h _ (List.mem_of_getElem? hk) _ rfl with hp | hp | hp | hp
          · exact hp
          all_goals exact hp.elim
        have hs' : s' = ⟨s.world, s.threads.set k ⟨d, some (rest false)⟩,
            s.log ++ [(d, ⟨.sendDedupeHas d.key, some false, s.world⟩)]⟩ := by
          simp only [s', Pool.after, hk, dedupe, hnew, decide_false, Option.map_some]
        have hready : aboutToSend d.key ⟨d, some (rest false)⟩ = true :=
          hasking.2.2.about_iff.2 ⟨rfl, hlive⟩
        have hstock := Pool.stock_perform (sentFor d.key) (aboutToSend d.key)
          ⟨d, some (rest false)⟩ s.world
          (d, ⟨.sendDedupeHas d.key, some false, s.world⟩) hk
        rw [← hs', hready, hasking.not_about] at hstock
        simp only [Bool.false_eq_true, if_false, if_true] at hstock
        unfold Deliveries.committed at hcommitted ⊢
        omega
    obtain ⟨later, hlater⟩ := exists_sends (h.step (.perform k a)) d.key
    exact ⟨later, d.key, htwo.trans hlater⟩

end

/-- If every live delivery that asks for a key asks alone, each reminder is sent at most once; and
    after one that does not, a reminder can be sent twice. -/
theorem sends_once (keys : List String) (events : List (PoolEvent ReminderDelivery Answer)) :
    ((∀ pre e, pre ++ [e] <+: events → AsksAlone ((Deliveries.start keys).after pre) e) →
      ∀ pre, pre <+: events → ∀ key, ((Deliveries.start keys).after pre).sends key ≤ 1) ∧
    ∀ e, ¬ AsksAlone ((Deliveries.start keys).after events) e →
      ∃ later key, 2 ≤ ((Deliveries.start keys).after (events ++ e :: later)).sends key := by
  constructor
  · intro h pre hpre key
    have hle := committed_le_one (fun pre' e hpre' => h pre' e (hpre'.trans hpre)) key
    exact (Nat.le_add_right _ _).trans hle
  · intro e he
    obtain ⟨later, key, htwo⟩ := exists_sent_twice ((Deliveries.start_wf keys).run events) he
    refine ⟨later, key, ?_⟩
    rw [Deliveries.after, Pool.run_append]
    exact htwo

/-! ## Reminders that are sent twice -/

namespace Sample

/-- A customer who may be mailed. -/
def mailable : Customer where
  id := "cus_1"
  merchantId := "mrc_1"
  processorRef := "cus_ref_1"
  email := some "owner@example.com"
  phone := none
  issuerRegion := .na
  createdAt := "2026-01-01T00:00:00.000Z"
  consent := { email := true, sms := false, whatsapp := false, push := false,
               globallyOptedOut := false }

/-- The reminder of the first attempt on the sample invoice, by a live service. -/
def reminder : ReminderDelivery :=
  .dunning { service with dunningSender := true, liveComms := true }
    { channel := .email, body := "Your card was declined.", generatedBy := .template }
    invoice 1 .expiredCard (some mailable) (some 12)

/-- Noon, and a sender that sends. -/
def sending : Answer := ⟨1786881600000, { status := .sent, provider := "postmark" }⟩

/-- Two deliveries ask before one of them has sent. -/
def overlapping : List (PoolEvent ReminderDelivery Answer) :=
  [.spawn reminder, .spawn reminder, .perform 0 sending, .perform 1 sending, .perform 0 sending,
    .perform 1 sending]

/-- A delivery dies after it has sent, and is made again. -/
def redelivered : List (PoolEvent ReminderDelivery Answer) :=
  [.spawn reminder, .perform 0 sending, .perform 0 sending, .die 0, .spawn reminder,
    .perform 1 sending, .perform 1 sending]

end Sample

/-- Two deliveries that overlap send a reminder twice, and so does one that dies before the record
    and is made again. -/
theorem sends_once_fails :
    ¬ ((Deliveries.start []).after Sample.overlapping).sends Sample.reminder.key ≤ 1 ∧
      ¬ ((Deliveries.start []).after Sample.redelivered).sends Sample.reminder.key ≤ 1 := by
  decide +kernel

end AX10M
