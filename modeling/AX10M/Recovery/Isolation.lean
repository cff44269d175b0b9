/-
  Merchants that share an instance of the service.

  The stores of the service are keyed by canonical invoice ids, credential keys,
  customer keys, message keys and idempotency keys.  As long as no other merchant's
  request touches a key of a merchant's cases, what is written for this merchant does
  not depend on the others: a run agrees with the run of this merchant's requests
  alone.  The time, and what the policy and the issuer priors have learned when a
  request is served, are given with the request.
-/
import AX10M.Recovery.Reversal

namespace AX10M

open Js Effects

/-! ## Keys -/

/-- A key of one of the stores. -/
inductive StoreKey where
  | invoice (id : String)
  | credential (key : String)
  | customer (key : String)
  | message (key : String)
  | charge (key : String)

section

variable {σ : Type} (s : RecoveryCaseService) (env : Env σ)

/-- The keys of the case of an invoice, and of the charges of an attempt. -/
def InCase (invoice : Invoice) (attempt : Option ℕ) : StoreKey → Prop
  | .invoice i => i = invoice.id
  | .credential k => ∃ m, k = credentialKey invoice.id m
  | .customer k => k = FeatureStore.customerKey invoice.merchantId invoice.customerId
  | .message k => ∃ n c, k = sendKey invoice n c
  | .charge k => ∃ n ∈ attempt, ∃ m, k = s.chargeKey invoice m n

/-- The reversal or reinstatement that a request carries. -/
def Request.reversalOf : Request → Option ReversalPayload
  | .webhook event _ =>
    match event.body with
    | .paymentReversed p | .paymentReversalReverted p => some p
    | _ => none
  | _ => none

/-- The request touches the key. -/
def Touches (r : Request) (k : StoreKey) : Prop :=
  (∃ c ∈ r.caseOf, InCase s c.1 r.attempt k) ∨ ∃ p ∈ r.reversalOf, k = .invoice p.invoiceId

/-- The merchant a request is about: the one of its invoice, or of its event. -/
def Request.merchant (r : Request) : String :=
  match r.caseOf, r with
  | some (invoice, _), _ => invoice.merchantId
  | none, .webhook event _ => event.merchantId
  | none, .plan invoice _ _ _ => invoice.merchantId
  | none, .execute _ p => p.invoice.merchantId

theorem reversalOf_move {event : CanonicalEvent} {pid : Option String} {m : Move}
    (h : event.body.move = some m) :
    m.payload ∈ Request.reversalOf (.webhook event pid) := by
  rcases EventBody.move_eq_some h with ⟨p, hb, rfl⟩ | ⟨p, hb, rfl⟩ <;> simp [Request.reversalOf, hb]

theorem merchant_move {event : CanonicalEvent} {pid : Option String} {m : Move}
    (h : event.body.move = some m) :
    Request.merchant (.webhook event pid) = event.merchantId := by
  rcases EventBody.move_eq_some h with ⟨p, hb, -⟩ | ⟨p, hb, -⟩ <;>
    simp [Request.merchant, Request.caseOf, hb]

/-! ## Worlds that agree for a merchant -/

/-- The worlds agree on what is kept of a merchant, and on the keys. -/
structure Agree (A : String) (K : StoreKey → Prop) (w w' : World σ) : Prop where
  ledger : w.ledger.filter (fun e => e.merchantId = A) =
    w'.ledger.filter fun e => e.merchantId = A
  own : ∀ e ∈ w.ledger, ∀ i, K (.invoice i) → e.isFor i → e.merchantId = A
  own' : ∀ e ∈ w'.ledger, ∀ i, K (.invoice i) → e.isFor i → e.merchantId = A
  dispatched : w.dispatched.filter (fun r => r.attempt.invoice.merchantId = A) =
    w'.dispatched.filter fun r => r.attempt.invoice.merchantId = A
  opened : ∀ i, K (.invoice i) → (i ∈ w.openedInvoices ↔ i ∈ w'.openedInvoices)
  attempts : ∀ i, K (.invoice i) → w.attempts.get i = w'.attempts.get i
  credentials : ∀ k, K (.credential k) →
    w.credentialAttempts.get k = w'.credentialAttempts.get k
  customers : ∀ k, K (.customer k) →
    w.featureStore.customers.get k = w'.featureStore.customers.get k
  sent : ∀ k, K (.message k) → (k ∈ w.sent ↔ k ∈ w'.sent)
  settled : ∀ k, K (.charge k) → AX10M.settled w.charges k = AX10M.settled w'.charges k

/-- The worlds also agree on the time and on what has been learned. -/
structure AgreeNow (A : String) (K : StoreKey → Prop) (w w' : World σ) : Prop extends
    Agree A K w w' where
  clock : w.clock = w'.clock
  policy : w.policy = w'.policy
  issuers : w.featureStore.issuers = w'.featureStore.issuers

variable {A : String} {K : StoreKey → Prop} {invoice : Invoice} {types : List LedgerEventType}
  {attempt : Option ℕ}

/-- Two ledgers that agree for a merchant still do after the same entry. -/
theorem filter_append_congr {α : Type} {l l' : List α} {P : α → Bool}
    (h : l.filter P = l'.filter P) (x : α) : (l ++ [x]).filter P = (l' ++ [x]).filter P := by
  rw [List.filter_append, List.filter_append, h]

theorem own_append {l : List LedgerEntry} {e : LedgerEntry}
    (h : ∀ e ∈ l, ∀ i, K (.invoice i) → e.isFor i → e.merchantId = A)
    (he : ∀ i, K (.invoice i) → e.isFor i → e.merchantId = A) :
    ∀ e' ∈ l ++ [e], ∀ i, K (.invoice i) → e'.isFor i → e'.merchantId = A := by
  intro e' he' i hi hf
  rcases List.mem_append.1 he' with he' | he'
  · exact h e' he' i hi hf
  · rw [List.mem_singleton.1 he'] at hf ⊢
    exact he i hi hf

theorem mem_insert_congr {l l' : List String} {x y : String} (h : x ∈ l ↔ x ∈ l') :
    x ∈ l.insert y ↔ x ∈ l'.insert y := by
  simp [h]

theorem get_set_congr {ν : Type} {m m' : Map String ν} {k : String} (h : m.get k = m'.get k)
    (k' : String) (v : ν) : (m.set k' v).get k = (m'.set k' v).get k := by
  rw [Map.get_set, Map.get_set, h]

theorem credentialIncrement_congr {m m' : Map String CredentialCount} {k k' : String}
    (h : m.get k = m'.get k) (h' : m.get k' = m'.get k') (t : String) :
    (credentialIncrement m k' t).get k = (credentialIncrement m' k' t).get k := by
  rw [credentialIncrement, credentialIncrement, h', Map.get_set, Map.get_set, h]

theorem processorCharge_congr {l l' : List ChargeCall} {key : String}
    (h : settled l key = settled l' key) (adapter : ProcessorAdapter) (m : PaymentMethod) :
    processorCharge l adapter invoice m key = processorCharge l' adapter invoice m key := by
  rw [processorCharge, processorCharge, h]

theorem settled_append_congr {l l' : List ChargeCall} {key : String}
    (h : settled l key = settled l' key) (c : ChargeCall) :
    settled (l ++ [c]) key = settled (l' ++ [c]) key := by
  unfold settled at h ⊢
  rw [List.any_append, List.any_append, h]

/-- An operation of a case of the merchant does the same in worlds that agree. -/
theorem agreeNow_op (hA : invoice.merchantId = A) (hK : ∀ k, InCase s invoice attempt k → K k)
    (o : ServiceOp) (w w' : World σ) (ho : CaseOp s invoice types attempt o)
    (h : AgreeNow A K w w') :
    (World.handle env o w).1 = (World.handle env o w').1 ∧
      AgreeNow A K (World.handle env o w).2 (World.handle env o w').2 := by
  cases o with
  | now =>
    exact ⟨congrArg some (congrFun h.clock 0),
      { h with clock := congrArg (fun c n => c (n + 1)) h.clock }⟩
  | ledgerAppend e =>
    have he : e.merchantId = A := ho.1.trans hA
    exact ⟨rfl, { h with
      ledger := filter_append_congr h.ledger e
      own := own_append h.own fun _ _ _ => he
      own' := own_append h.own' fun _ _ _ => he }⟩
  | ledgerAll => exact ho.elim
  | openedInvoicesHas i =>
    have hi : K (.invoice i) := hK _ ho
    refine ⟨?_, h⟩
    simp only [World.handle, h.opened i hi]
  | openedInvoicesAdd i =>
    exact ⟨rfl, { h with opened := fun j hj => mem_insert_congr (h.opened j hj) }⟩
  | attemptsGet i => exact ⟨congrArg some (h.attempts i (hK _ ho)), h⟩
  | attemptsSet i n =>
    exact ⟨rfl, { h with attempts := fun j hj => get_set_congr (h.attempts j hj) i n }⟩
  | credentialWindow k t =>
    refine ⟨?_, h⟩
    simp only [World.handle, credentialWindow, h.credentials k (hK _ ho)]
  | credentialIncrement k t =>
    have hk := h.credentials k (hK _ ho.2)
    exact ⟨rfl, { h with
      credentials := fun j hj => credentialIncrement_congr (h.credentials j hj) hk t }⟩
  | attemptCharge a i m k =>
    obtain ⟨n, hn, rfl, rfl⟩ := ho
    have hk := h.settled (s.chargeKey i m n) (hK _ ⟨n, hn, m, rfl⟩)
    simp only [World.handle, processorCharge_congr hk]
    cases processorCharge w'.charges a i m (s.chargeKey i m n) with
    | none => exact ⟨rfl, h⟩
    | some c =>
      exact ⟨rfl, { h with settled := fun j hj => settled_append_congr (h.settled j hj) c }⟩
  | dispatch r =>
    exact ⟨rfl, { h with dispatched := filter_append_congr h.dispatched r }⟩
  | observe m c t d =>
    exact ⟨rfl, { h with
      customers := fun j hj => FeatureStore.observe_get_congr m c t d (h.customers j hj) }⟩
  | recordOutcome m c b r t =>
    exact ⟨rfl, { h with
      customers := fun j hj =>
        FeatureStore.recordOutcome_get_congr env.featureStore m c b r t (h.customers j hj)
      issuers := FeatureStore.recordOutcome_issuers_congr env.featureStore m c b r t h.issuers }⟩
  | enrich ctx =>
    refine ⟨congrArg some (FeatureStore.enrich_congr _ (h.customers _ (hK _ ?_)) h.issuers), h⟩
    rw [ho.1, ho.2]
    rfl
  | decide f ctx =>
    refine ⟨?_, h⟩
    simp only [World.handle, h.policy]
  | update f d r =>
    exact ⟨rfl, { h with policy := by simp only [World.handle, h.policy] }⟩
  | recordFailure m i c a => exact ⟨rfl, { h with }⟩
  | recordBaselineRecovery m i => exact ho.elim
  | sendDedupeHas k =>
    refine ⟨?_, h⟩
    simp only [World.handle, h.sent k (hK _ ho)]
  | sendDedupeRecord k =>
    exact ⟨rfl, { h with sent := fun j hj => mem_insert_congr (h.sent j hj) }⟩
  | _ => exact ⟨rfl, h⟩

theorem filter_append_of_not {α : Type} {l : List α} {P : α → Bool} {x : α} (hx : P x = false) :
    (l ++ [x]).filter P = l.filter P := by
  simp [List.filter_append, hx]

/-- An operation of a case of another merchant changes nothing of what is kept. -/
theorem agree_other_op (hA : invoice.merchantId ≠ A) (hK : ∀ k, InCase s invoice attempt k → ¬ K k)
    (w' : World σ) (o : ServiceOp) (w : World σ) (ho : CaseOp s invoice types attempt o)
    (h : Agree A K w w') : Agree A K (World.handle env o w).2 w' := by
  -- no key of the merchant is the one an operation of the case touches
  have hne : ∀ {k} k', InCase s invoice attempt k' → K k → k ≠ k' := fun k' hk' hk he =>
    hK k' hk' (he ▸ hk)
  cases o with
  | ledgerAppend e =>
    have he : e.merchantId ≠ A := fun he => hA (ho.1.symm.trans he)
    refine { h with ledger := ?_, own := own_append h.own fun i hi hf => ?_ }
    · rw [← h.ledger]
      exact filter_append_of_not (by simpa using he)
    · have hid : invoice.id = i := by
        have := (e.isFor_iff i).1 hf
        rw [ho.2.1] at this
        simpa using this
      exact absurd (hid ▸ hi) (hK (.invoice invoice.id) rfl)
  | openedInvoicesAdd i =>
    refine { h with opened := fun j hj => ?_ }
    have hji : j ≠ i := fun he => hne (.invoice i) ho hj (congrArg _ he)
    simp [World.handle, hji, h.opened j hj]
  | attemptsSet i n =>
    refine { h with attempts := fun j hj => ?_ }
    have hji : j ≠ i := fun he => hne (.invoice i) ho hj (congrArg _ he)
    simp [World.handle, Map.get_set, hji, h.attempts j hj]
  | credentialIncrement k t =>
    refine { h with credentials := fun j hj => ?_ }
    have hjk : j ≠ k := fun he => hne (.credential k) ho.2 hj (congrArg _ he)
    simp [World.handle, credentialIncrement, Map.get_set, hjk, h.credentials j hj]
  | attemptCharge a i m k =>
    obtain ⟨n, hn, rfl, rfl⟩ := ho
    simp only [World.handle]
    cases hc : processorCharge w.charges a i m (s.chargeKey i m n) with
    | none => exact h
    | some c =>
      refine { h with settled := fun j hj => ?_ }
      have hjk : s.chargeKey i m n ≠ j := fun he =>
        hne (.charge (s.chargeKey i m n)) ⟨n, hn, m, rfl⟩ hj (congrArg _ he.symm)
      have hkey : c.key = s.chargeKey i m n := (processorCharge_invoice hc).2
      simp [settled_append, hkey, hjk, h.settled j hj]
  | dispatch r =>
    refine { h with dispatched := ?_ }
    rw [← h.dispatched]
    exact filter_append_of_not (by simpa [ho.2.1] using hA)
  | observe m c t d =>
    refine { h with customers := fun j hj => ?_ }
    have hjk : j ≠ FeatureStore.customerKey m c := fun he => by
      refine hne (.customer (FeatureStore.customerKey m c)) ?_ hj (congrArg _ he)
      rw [ho.1, ho.2]
      rfl
    exact (FeatureStore.observe_get_ne w.featureStore m c t d hjk).trans (h.customers j hj)
  | recordOutcome m c b r t =>
    refine { h with customers := fun j hj => ?_ }
    have hjk : j ≠ FeatureStore.customerKey m c := fun he => by
      refine hne (.customer (FeatureStore.customerKey m c)) ?_ hj (congrArg _ he)
      rw [ho.1, ho.2]
      rfl
    exact (FeatureStore.recordOutcome_get_ne env.featureStore w.featureStore m c b r t hjk).trans
      (h.customers j hj)
  | sendDedupeRecord k =>
    refine { h with sent := fun j hj => ?_ }
    have hjk : j ≠ k := fun he => hne (.message k) ho hj (congrArg _ he)
    simp [World.handle, hjk, h.sent j hj]
  | _ => exact { h with }

/-! ## Requests -/

/-- When a request is served, and what has been learned by then. -/
structure Setting (σ : Type) where
  clock : ℕ → ℤ
  policy : σ
  issuers : Map String IssuerAgg

/-- The world in a setting. -/
def World.setTo (w : World σ) (g : Setting σ) : World σ :=
  { w with clock := g.clock, policy := g.policy, featureStore.issuers := g.issuers }

/-- Serve requests, each in its setting. -/
def serveIn (w : World σ) (xs : List (Setting σ × Request)) : World σ :=
  xs.foldl (fun w x => serve s env (w.setTo x.1) x.2) w

/-- The totals of an invoice of the merchant are those of the merchant's entries. -/
theorem amountOf_filter {l : List LedgerEntry} {i : String}
    (h : ∀ e ∈ l, e.isFor i → e.merchantId = A) (type : LedgerEventType) :
    amountOf (l.filter fun e => e.merchantId = A) type i = amountOf l type i := by
  rw [amountOf, amountOf, List.filter_filter]
  congr 2
  refine List.filter_congr fun e he => ?_
  by_cases hi : e.isFor i
  · simp [h e he hi]
  · simp [hi]

theorem Agree.amountOf {w w' : World σ} (h : Agree A K w w') {i : String} (hi : K (.invoice i))
    (type : LedgerEventType) : AX10M.amountOf w.ledger type i = AX10M.amountOf w'.ledger type i := by
  rw [← amountOf_filter (fun e he => h.own e he i hi), h.ledger,
    amountOf_filter fun e he => h.own' e he i hi]

theorem Agree.setTo {w w' : World σ} (h : Agree A K w w') (g : Setting σ) :
    AgreeNow A K (w.setTo g) (w'.setTo g) :=
  { h with clock := rfl, policy := rfl, issuers := rfl }

/-- The same entry of the merchant is appended on both sides, or nothing is. -/
theorem Agree.append {w w' : World σ} (h : Agree A K w w') {e : LedgerEntry}
    (he : e.merchantId = A) (b : Prop) [Decidable b] :
    Agree A K (if b then w else { w with ledger := w.ledger ++ [e] })
      (if b then w' else { w' with ledger := w'.ledger ++ [e] }) := by
  split
  · exact h
  · exact { h with
      ledger := filter_append_congr h.ledger e
      own := own_append h.own fun _ _ _ => he
      own' := own_append h.own' fun _ _ _ => he }

/-- An entry of another merchant, about an invoice that is none of the keys, changes nothing. -/
theorem Agree.append_other {w w' : World σ} (h : Agree A K w w') {e : LedgerEntry}
    (he : e.merchantId ≠ A) (hf : ∀ i, K (.invoice i) → ¬ e.isFor i) (b : Prop) [Decidable b] :
    Agree A K (if b then w else { w with ledger := w.ledger ++ [e] }) w' := by
  split
  · exact h
  · refine { h with ledger := ?_, own := own_append h.own fun i hi hi' => absurd hi' (hf i hi) }
    rw [← h.ledger]
    exact filter_append_of_not (by simpa using he)

/-- A request of the merchant, served on both sides in the same setting. -/
theorem agree_serve {w w' : World σ} {r : Request} (hA : r.merchant = A)
    (hK : ∀ k, Touches s r k → K k) (g : Setting σ) (h : Agree A K w w') :
    Agree A K (serve s env (w.setTo g) r) (serve s env (w'.setTo g) r) := by
  have now := h.setTo g
  rcases program_cases s r with ⟨invoice, types, hc, hp⟩ | ⟨event, pid, m, rfl, hm⟩ | ⟨hc, hp⟩
  · have hm : invoice.merchantId = A := by simpa [Request.merchant, hc] using hA
    have hkeys : ∀ k, InCase s invoice r.attempt k → K k := fun k hk => hK k (.inl ⟨_, hc, hk⟩)
    exact (Prog.exec_rel (AgreeNow A K) (agreeNow_op s env hm hkeys) hp now).2.toAgree
  · have hi : K (.invoice m.payload.invoiceId) :=
      hK _ (.inr ⟨m.payload, reversalOf_move hm, rfl⟩)
    have hcap : m.cap (w.setTo g).ledger m.payload.invoiceId =
        m.cap (w'.setTo g).ledger m.payload.invoiceId := by
      simp only [EventBody.cap_move hm, now.amountOf hi]
    rw [serve_move s env _ pid hm, serve_move s env _ pid hm, hcap]
    exact now.append ((merchant_move hm).symm.trans hA) _
  · refine (Prog.exec_rel (AgreeNow A K) (fun o v v' ho hv => ?_) hp now).2.toAgree
    cases o with
    | recordBaselineRecovery m i => exact ⟨rfl, { hv with }⟩
    | _ => exact ho.elim

/-- A request of another merchant that touches none of the keys. -/
theorem agree_serve_other {w w' : World σ} {r : Request} (hA : r.merchant ≠ A)
    (hK : ∀ k, Touches s r k → ¬ K k) (g : Setting σ) (h : Agree A K w w') :
    Agree A K (serve s env (w.setTo g) r) w' := by
  have hg : Agree A K (w.setTo g) w' := { h with }
  rcases program_cases s r with ⟨invoice, types, hc, hp⟩ | ⟨event, pid, m, rfl, hm⟩ | ⟨hc, hp⟩
  · have hm : invoice.merchantId ≠ A := by simpa [Request.merchant, hc] using hA
    have hkeys : ∀ k, InCase s invoice r.attempt k → ¬ K k := fun k hk => hK k (.inl ⟨_, hc, hk⟩)
    exact Prog.exec_inv (Agree A K · w') (agree_other_op s env hm hkeys w') hp hg
  · have hi : ¬ K (.invoice m.payload.invoiceId) :=
      hK _ (.inr ⟨m.payload, reversalOf_move hm, rfl⟩)
    rw [serve_move s env _ pid hm]
    refine hg.append_other (fun he => hA ((merchant_move hm).trans he)) (fun i hik hf => hi ?_) _
    simp only [reversalEntry_isFor, decide_eq_true_eq] at hf
    rwa [hf]
  · refine Prog.exec_inv (Agree A K · w') (fun o v ho hv => ?_) hp hg
    cases o with
    | recordBaselineRecovery m i => exact { hv with }
    | _ => exact ho.elim

/-! ## Runs -/

/-- The keys that the requests of the merchant touch. -/
def KeysOf (A : String) (xs : List (Setting σ × Request)) (k : StoreKey) : Prop :=
  ∃ x ∈ xs, x.2.merchant = A ∧ Touches s x.2 k

/-- No request of another merchant touches a key that a request of this one touches. -/
def Separate (A : String) (xs : List (Setting σ × Request)) : Prop :=
  ∀ x ∈ xs, x.2.merchant ≠ A → ∀ k, Touches s x.2 k → ¬ KeysOf s A xs k

/-- The requests of the merchant. -/
def requestsOf (A : String) (xs : List (Setting σ × Request)) : List (Setting σ × Request) :=
  xs.filter fun x => x.2.merchant = A

theorem keysOf_requestsOf (xs : List (Setting σ × Request)) (k : StoreKey) :
    KeysOf s A (requestsOf A xs) k ↔ KeysOf s A xs k := by
  simp only [KeysOf, requestsOf, List.mem_filter, decide_eq_true_eq]
  constructor
  · rintro ⟨x, ⟨hx, -⟩, h⟩
    exact ⟨x, hx, h⟩
  · rintro ⟨x, hx, hm, h⟩
    exact ⟨x, ⟨hx, hm⟩, hm, h⟩

theorem agree_refl {w : World σ}
    (h : ∀ e ∈ w.ledger, ∀ i, K (.invoice i) → e.isFor i → e.merchantId = A) : Agree A K w w :=
  ⟨rfl, h, h, rfl, fun _ _ => Iff.rfl, fun _ _ => rfl, fun _ _ => rfl, fun _ _ => rfl,
    fun _ _ => Iff.rfl, fun _ _ => rfl⟩

/-- A run agrees with the run of the merchant's requests alone. -/
theorem agree_requestsOf {xs : List (Setting σ × Request)} (hxs : Separate s A xs)
    (policy : σ) (clock : ℕ → ℤ) :
    Agree A (KeysOf s A xs) (serveIn s env (World.init policy clock) xs)
      (serveIn s env (World.init policy clock) (requestsOf A xs)) := by
  refine foldl_purge (Agree A (KeysOf s A xs)) (fun x hx hk w w' => ?_) (fun x hx hk w w' => ?_)
    (agree_refl (by simp [World.init]))
  · have hm : x.2.merchant = A := by simpa using hk
    exact agree_serve s env hm (fun k ht => ⟨x, hx, hm, ht⟩) x.1
  · have hm : x.2.merchant ≠ A := by simpa using hk
    exact agree_serve_other s env hm (hxs x hx hm) x.1

/-- What is written for a merchant: two runs that serve the same requests of the merchant, in the
    same settings, write the same for it, whatever they serve in between for other merchants, as
    long as that touches no key of the merchant's cases. -/
theorem merchant_isolation (policy : σ) (clock : ℕ → ℤ) (A : String)
    (xs ys : List (Setting σ × Request)) (hA : requestsOf A xs = requestsOf A ys)
    (hxs : Separate s A xs) (hys : Separate s A ys) :
    let w := serveIn s env (World.init policy clock) xs
    let w' := serveIn s env (World.init policy clock) ys
    w.ledger.filter (fun e => e.merchantId = A) = w'.ledger.filter (fun e => e.merchantId = A) ∧
    w.dispatched.filter (fun r => r.attempt.invoice.merchantId = A) =
      w'.dispatched.filter (fun r => r.attempt.invoice.merchantId = A) ∧
    (∀ i, KeysOf s A xs (.invoice i) → w.attempts.get i = w'.attempts.get i) ∧
    (∀ k, KeysOf s A xs (.credential k) →
      w.credentialAttempts.get k = w'.credentialAttempts.get k) ∧
    ∀ k, KeysOf s A xs (.charge k) → settled w.charges k = settled w'.charges k := by
  intro w w'
  have h := agree_requestsOf s env hxs policy clock
  have h' := agree_requestsOf s env hys policy clock
  rw [← hA] at h'
  have hkeys : ∀ k, KeysOf s A xs k → KeysOf s A ys k := fun k hk => by
    rwa [← keysOf_requestsOf, hA, keysOf_requestsOf] at hk
  exact ⟨h.ledger.trans h'.ledger.symm, h.dispatched.trans h'.dispatched.symm,
    fun i hi => (h.attempts i hi).trans (h'.attempts i (hkeys _ hi)).symm,
    fun k hk => (h.credentials k hk).trans (h'.credentials k (hkeys _ hk)).symm,
    fun k hk => (h.settled k hk).trans (h'.settled k (hkeys _ hk)).symm⟩

end

/-- A customer's invoice of a merchant fails. -/
def Sample.fails (merchantId invoiceId : String) : Setting Unit × Request :=
  (⟨fun _ => 1786881600000, (), .empty⟩,
    .webhook { Sample.event ("fail_" ++ invoiceId) (.invoiceFailed
      { invoice := some { Sample.invoice with id := invoiceId, merchantId },
        decline := some Sample.decline }) with merchantId } none)

theorem Sample.fails_touches (m i : String) (k : StoreKey) :
    Touches Sample.service (Sample.fails m i).2 k ↔
      InCase Sample.service { Sample.invoice with id := i, merchantId := m } none k := by
  simp [Touches, Sample.fails, Sample.event, Request.caseOf, Request.reversalOf, Request.attempt]

theorem Sample.separate :
    Separate Sample.service "mrc_1" [Sample.fails "mrc_2" "inv_2", Sample.fails "mrc_1" "inv_1"] := by
  intro x hx hm k hk ⟨y, hy, hm', hk'⟩
  obtain rfl : x = Sample.fails "mrc_2" "inv_2" := by
    rcases List.mem_pair.1 hx with h | h
    · exact h
    · rw [h] at hm
      exact absurd rfl hm
  obtain rfl : y = Sample.fails "mrc_1" "inv_1" := by
    rcases List.mem_pair.1 hy with h | h
    · rw [h] at hm'
      exact absurd hm' (by decide)
    · exact h
  rw [Sample.fails_touches] at hk hk'
  cases k with
  | invoice i => exact absurd (hk.symm.trans hk') (by decide)
  | credential k =>
    obtain ⟨⟨m, rfl⟩, m', h⟩ := And.intro hk hk'
    have := congrArg (fun k => k.toList.take 5) h
    simp [credentialKey] at this
  | customer k => exact absurd (hk.symm.trans hk') (by decide)
  | message k =>
    obtain ⟨⟨n, c, rfl⟩, n', c', h⟩ := And.intro hk hk'
    have := congrArg (fun k => k.toList.take 5) h
    simp [sendKey, String.intercalate_cons_cons] at this
  | charge k =>
    obtain ⟨n, hn, -⟩ := hk
    cases hn

/-- Another merchant's failure, of an invoice of its own, makes no difference. -/
theorem merchant_isolation_sample :
    (serveIn Sample.service Sample.env Sample.world
      [Sample.fails "mrc_2" "inv_2", Sample.fails "mrc_1" "inv_1"]).ledger.filter
        (fun e => e.merchantId = "mrc_1") =
    (serveIn Sample.service Sample.env Sample.world
      [Sample.fails "mrc_1" "inv_1"]).ledger.filter (fun e => e.merchantId = "mrc_1") := by
  refine (merchant_isolation Sample.service Sample.env () (fun _ => 1786881600000) "mrc_1"
    [Sample.fails "mrc_2" "inv_2", Sample.fails "mrc_1" "inv_1"] [Sample.fails "mrc_1" "inv_1"]
    rfl Sample.separate ?_).1
  intro x hx hm
  rw [List.mem_singleton.1 hx] at hm
  exact absurd rfl hm

/-- A failure of another merchant's invoice with the same canonical id: the assignment of the
    merchant's own customer is never written. -/
theorem merchant_isolation_fails :
    let written := fun xs => ((serveIn Sample.service Sample.env Sample.world xs).ledger.filter
      fun e => e.merchantId = "mrc_1").map (·.type)
    requestsOf "mrc_1" [Sample.fails "mrc_2" "inv_1", Sample.fails "mrc_1" "inv_1"] =
      requestsOf "mrc_1" [Sample.fails "mrc_1" "inv_1"] ∧
    written [Sample.fails "mrc_1" "inv_1"] = [.holdoutAssigned, .recoveryPlanned] ∧
    written [Sample.fails "mrc_2" "inv_1", Sample.fails "mrc_1" "inv_1"] = [.recoveryPlanned] := by
  refine ⟨rfl, ?_⟩
  decide +kernel

end AX10M
