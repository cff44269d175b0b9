/-
  Billing runs one after the other: what the months leave in the ledger, and the
  statements of a merchant in the order of the runs.

  A month is what the service appended since the last run, and a run.  The runs happen
  at instants that do not go back; then the watermark that a run reads is the lower
  bound of the statement the run before it recorded (`priorBilled_books`).
-/
import AX10M.Billing.Run
import AX10M.Logs.Latest
import Mathlib.Algebra.Order.Ring.Cast
import Mathlib.Data.Rat.Floor
import Mathlib.Tactic.Linarith

namespace AX10M

open Js Logs

/-! ## The statements in a ledger -/

/-- The lower bound that a statement records. -/
def LedgerEntry.bound (e : LedgerEntry) : ℚ := num (e.field "lowerDollarsCum")

/-- The entry is a statement of the merchant that the reader of the watermark can read. -/
def statementAt (m : String) (e : LedgerEntry) : Option (ℤ × LedgerEntry) :=
  if e.type ≠ .upliftStatement ∨ e.merchantId ≠ m then none
  else
    match Date.parse e.occurredAt, e.field "lowerDollarsCum" with
    | some t, some (.num _) => some (t, e)
    | _, _ => none

theorem statementAt_eq_some {m : String} {e : LedgerEntry} {p : ℤ × LedgerEntry}
    (h : statementAt m e = some p) : e.type = .upliftStatement ∧ p.2 = e := by
  unfold statementAt at h
  split_ifs at h with he
  split at h
  · obtain rfl := Option.some.inj h
    exact ⟨not_not.1 (not_or.1 he).1, rfl⟩
  · cases h

/-- The statements of a merchant, with their instants. -/
def statements (entries : List LedgerEntry) (m : String) : List (ℤ × LedgerEntry) :=
  entries.filterMap (statementAt m)

@[simp] theorem statements_append (l l' : List LedgerEntry) (m : String) :
    statements (l ++ l') m = statements l m ++ statements l' m :=
  List.filterMap_append

/-- What the reader of the watermark keeps of the latest statement: its instant and its bound. -/
def keptOf (o : Option (ℤ × LedgerEntry)) : Option ℤ × ℚ :=
  (o.map Prod.fst, (o.map fun p => p.2.bound).getD 0)

theorem keptOf_later (o : Option (ℤ × LedgerEntry)) (t : ℤ) (e : LedgerEntry) :
    keptOf (later o (t, e)) =
      if ∀ t' ∈ (keptOf o).1, t' ≤ t then (some t, e.bound) else keptOf o := by
  cases o with
  | none => simp [later, keptOf]
  | some p => by_cases hp : p.1 ≤ t <;> simp [later, keptOf, hp]

/-- The watermark is the bound of the latest statement. -/
theorem priorBilled_eq (entries : List LedgerEntry) (m : String) :
    priorBilledFromLedger entries m = (keptOf (latest (statements entries m))).2 := by
  unfold priorBilledFromLedger
  congr 1
  induction entries using List.reverseRecOn with
  | nil => rfl
  | append_singleton l e ih =>
    rw [List.foldl_append, List.foldl_cons, List.foldl_nil, ih, statements_append]
    by_cases he : e.type ≠ .upliftStatement ∨ e.merchantId ≠ m
    · simp [he, statements, statementAt]
    · cases ht : Date.parse e.occurredAt with
      | none => simp [he, ht, statements, statementAt]
      | some t =>
        rcases hc : e.field "lowerDollarsCum" with _ | v
        · simp [he, ht, hc, statements, statementAt]
        · cases v with
          | num cum =>
            have hs : statements [e] m = [(t, e)] := by simp [he, ht, hc, statements, statementAt]
            have hb : e.bound = cum := by rw [LedgerEntry.bound, hc, num_num]
            rw [hs, latest_concat, keptOf_later, hb, if_neg he]
          | _ => simp [he, ht, hc, statements, statementAt]

theorem distinct_nodup (xs : List String) : (distinct xs).Nodup := by
  induction xs using List.reverseRecOn with
  | nil => exact List.nodup_nil
  | append_singleton xs x ih =>
    simp only [distinct, List.foldl_append, List.foldl_cons, List.foldl_nil] at ih ⊢
    split
    next => exact ih
    next h => exact ih.append (List.nodup_singleton x) (by simpa using h)

section

/-! ## Months -/

/-- A month: what the service appended since the last run, and a run. -/
structure Month (K : Type) where
  activity : List LedgerEntry
  /-- only runs record statements -/
  quiet : ∀ e ∈ activity, e.type ≠ .upliftStatement
  opts : BillingRunOptions K
  instant : ℤ
  parsed : Date.parse opts.nowIso = some instant

/-- The ledger, and the results of all runs so far. -/
structure BillingBooks (K : Type) where
  ledger : List LedgerEntry
  results : List (BillingMerchantResult K)

variable {K : Type}

/-- The fee of a statement was computed: it is billable, or a credit. -/
def BillableUpliftResult.settled (r : BillableUpliftResult K) : Bool :=
  r.billable || decide (r.billableIncrement < 0)

/-- The statement proves more dollars, but a gate keeps them from being billed. -/
def BillableUpliftResult.withheld (r : BillableUpliftResult K) : Prop :=
  r.billable = false ∧ 0 < r.billableIncrement

instance (r : BillableUpliftResult K) : Decidable r.withheld :=
  inferInstanceAs (Decidable (_ ∧ _))

/-- The month that is billed. -/
def Month.period (x : Month K) : BillingPeriod := monthBefore x.instant

/-- The runs are made one after the other. -/
def InOrder (xs : List (Month K)) : Prop := xs.Pairwise fun x y => x.instant ≤ y.instant

theorem InOrder.init {xs : List (Month K)} {x : Month K} (h : InOrder (xs ++ [x])) :
    InOrder xs ∧ ∀ y ∈ xs, y.instant ≤ x.instant := by
  obtain ⟨hxs, -, hx⟩ := List.pairwise_append.1 h
  exact ⟨hxs, fun y hy => hx y hy x List.mem_cons_self⟩

namespace BillingBooks

/-- The entries that the run of a month reads. -/
def entries (b : BillingBooks K) (x : Month K) : List LedgerEntry := b.ledger ++ x.activity

/-- The results for a merchant, in the order of the runs. -/
def of (b : BillingBooks K) (m : String) : List (BillingMerchantResult K) :=
  b.results.filter fun r => r.merchantId = m

/-- The lower bound of the last statement of a merchant. -/
def lastBound (b : BillingBooks K) (m : String) : ℤ :=
  ((b.of m).getLast?.map fun r => r.statement.result.lowerDollarsCum).getD 0

end BillingBooks

theorem statements_entries (b : BillingBooks K) (x : Month K) (m : String) :
    statements (b.entries x) m = statements b.ledger m := by
  have h : statements x.activity m = [] :=
    List.filterMap_eq_nil_iff.2 fun e he => by simp [statementAt, x.quiet e he]
  rw [BillingBooks.entries, statements_append, h, List.append_nil]

@[simp] theorem statementEntry_bound (nowIso : String) (r : BillingMerchantResult K) :
    (statementEntry nowIso r).bound = r.statement.result.lowerDollarsCum := by
  simp [LedgerEntry.bound, LedgerEntry.field, statementEntry, Record.get_cons]

theorem statementAt_statementEntry (x : Month K) (r : BillingMerchantResult K) (m : String) :
    statementAt m (statementEntry x.opts.nowIso r) =
      if r.merchantId = m then some (x.instant, statementEntry x.opts.nowIso r) else none := by
  by_cases hm : r.merchantId = m <;>
    simp [statementAt, statementEntry, hm, x.parsed, LedgerEntry.field, Record.get_cons]

/-- The statements of a merchant among the entries of results. -/
theorem statements_statementEntry (x : Month K) (rs : List (BillingMerchantResult K)) (m : String) :
    statements (rs.map (statementEntry x.opts.nowIso)) m =
      (rs.filter fun r => r.merchantId = m).map fun r =>
        (x.instant, statementEntry x.opts.nowIso r) := by
  induction rs with
  | nil => rfl
  | cons r rs ih =>
    simp only [statements] at ih
    by_cases hm : r.merchantId = m <;>
      simp [statements, statementAt_statementEntry, hm, ih]

variable [Field K] [LinearOrder K] [FloorRing K]

/-! ## A run for one merchant -/

/-- What a run has for a merchant: the statement of the cohort over the watermark, and no more
    billed than its fee. -/
structure Bills (opts : BillingRunOptions K) (entries : List LedgerEntry) (p : BillingPeriod)
    (m : String) (r : BillingMerchantResult K) : Prop where
  merchant : r.merchantId = m
  period : r.period = p
  statement : r.statement.result = settle (measureCohort opts.ctx entries m p)
    opts.ctx.config.feeRate (priorBilledFromLedger entries m)
  net : r.economics.netBilledMinor ≤ max 0 r.statement.result.fee
  feeRate : 0 ≤ opts.ctx.config.feeRate

namespace Bills

variable {opts : BillingRunOptions K} {entries : List LedgerEntry} {p : BillingPeriod} {m : String}
  {r : BillingMerchantResult K}

theorem lower (h : Bills opts entries p m r) :
    r.statement.result.lowerDollarsCum = (measureCohort opts.ctx entries m p).lowerDollars := by
  rw [h.statement]
  rfl

theorem billable (h : Bills opts entries p m r) :
    r.statement.result.billable = (measureCohort opts.ctx entries m p).billable := by
  rw [h.statement]
  rfl

theorem increment (h : Bills opts entries p m r) :
    r.statement.result.billableIncrement =
      r.statement.result.lowerDollarsCum - priorBilledFromLedger entries m := by
  rw [h.statement]
  rfl

theorem fee (h : Bills opts entries p m r) :
    r.statement.result.fee = if r.statement.result.settled then
      Js.round (opts.ctx.config.feeRate * (r.statement.result.billableIncrement : K)) else 0 := by
  rw [h.statement]
  simp [settle, BillableUpliftResult.settled]

end Bills

theorem billMerchant_bills {opts : BillingRunOptions K} {entries : List LedgerEntry}
    {period : BillingPeriod} {m : String} {r : BillingMerchantResult K}
    (h : billMerchant opts entries period m = .ok r) : Bills opts entries period m r := by
  cases hc : configError opts.ctx.ops opts.ctx.config with
  | some message =>
    simp [billMerchant, computeMerchantStatement, computeBillableUplift, hc, bind, Except.bind] at h
  | none =>
    simp only [billMerchant, computeMerchantStatement, computeBillableUplift, hc, bind, Except.bind,
      pure, Except.pure, Except.ok.injEq] at h
    rw [← h]
    exact ⟨rfl, rfl, rfl, (netBilled_bounds _ _ _ _).2, (configError_feeRate hc).1⟩

/-- What `mapM` returns is named as its arguments are, if every single result is. -/
theorem mapM_named {ε β : Type} {f : String → Except ε β} {name : β → String}
    (hf : ∀ {a b}, f a = .ok b → name b = a) {l : List String} {bs : List β}
    (h : l.mapM f = .ok bs) : bs.map name = l ∧ ∀ b ∈ bs, f (name b) = .ok b := by
  induction l generalizing bs with
  | nil =>
    obtain rfl : bs = [] := by simpa [pure, Except.pure] using h.symm
    exact ⟨rfl, by simp⟩
  | cons a l ih =>
    rw [List.mapM_cons] at h
    cases ha : f a with
    | error e => simp [ha, bind, Except.bind] at h
    | ok b =>
      cases hl : l.mapM f with
      | error e => simp [ha, hl, bind, Except.bind] at h
      | ok bs' =>
        obtain rfl : bs = b :: bs' := by
          simpa [ha, hl, bind, Except.bind, pure, Except.pure] using h.symm
        obtain ⟨hn, hbs⟩ := ih hl
        refine ⟨by rw [List.map_cons, hf ha, hn], fun b' hb' => ?_⟩
        rcases List.mem_cons.1 hb' with rfl | hb'
        · rw [hf ha, ha]
        · exact hbs b' hb'

/-- Among things of distinct names there is at most one of a name. -/
theorem filter_named {β : Type} {name : β → String} {bs : List β} (h : (bs.map name).Nodup)
    (m : String) : bs.filter (fun b => name b = m) = [] ∨
      ∃ b ∈ bs, name b = m ∧ bs.filter (fun b => name b = m) = [b] := by
  induction bs with
  | nil => exact .inl rfl
  | cons b bs ih =>
    obtain ⟨hb, h⟩ := List.nodup_cons.1 h
    by_cases hm : name b = m
    · have hbs : bs.filter (fun b => name b = m) = [] := by
        refine List.filter_eq_nil_iff.2 fun b' hb' hn => hb (List.mem_map.2 ⟨b', hb', ?_⟩)
        exact (of_decide_eq_true hn).trans hm.symm
      exact .inr ⟨b, List.mem_cons_self, hm, by simp [hm, hbs]⟩
    · rcases ih h with hbs | ⟨b', hb', hn, hbs⟩
      · exact .inl (by simp [hm, hbs])
      · exact .inr ⟨b', List.mem_cons_of_mem b hb', hn, by simp [hm, hbs]⟩

/-! ## Runs -/

namespace BillingBooks

/-- The results of the run of a month; a run that fails has none. -/
def run (b : BillingBooks K) (x : Month K) : List (BillingMerchantResult K) :=
  match runBilling x.opts (b.entries x) with
  | .ok results => results
  | .error _ => []

/-- The books after a month. -/
def after (b : BillingBooks K) (x : Month K) : BillingBooks K :=
  ⟨ledgerAfterRun x.opts (b.entries x), b.results ++ b.run x⟩

theorem after_ledger (b : BillingBooks K) (x : Month K) :
    (b.after x).ledger = b.entries x ++ (b.run x).map (statementEntry x.opts.nowIso) := by
  rw [after, ledgerAfterRun, run]
  cases runBilling x.opts (b.entries x) with
  | ok results => rfl
  | error e => simp

/-- A run has one result at most for a merchant. -/
theorem run_cases (b : BillingBooks K) (x : Month K) (m : String) :
    (b.run x).filter (fun r => r.merchantId = m) = [] ∨
      ∃ r ∈ b.run x, Bills x.opts (b.entries x) x.period m r ∧
        (b.run x).filter (fun r => r.merchantId = m) = [r] := by
  cases h : runBilling x.opts (b.entries x) with
  | error e => exact .inl (by simp [run, h])
  | ok results =>
    have hrun : b.run x = results := by rw [run, h]
    have hr : (merchantsInLedger (b.entries x)).mapM
        (billMerchant x.opts (b.entries x) x.period) = .ok results := by
      rw [← h, runBilling, previousMonth, x.parsed]
      rfl
    obtain ⟨hn, hb⟩ := mapM_named (fun h => (billMerchant_bills h).merchant) hr
    have hnodup : (results.map BillingMerchantResult.merchantId).Nodup := by
      rw [hn]
      exact distinct_nodup _
    rw [hrun]
    rcases filter_named hnodup m with he | ⟨r, hr, rfl, he⟩
    · exact .inl he
    · exact .inr ⟨r, hr, billMerchant_bills (hb r hr), he⟩

end BillingBooks

/-- What a month adds for a merchant: nothing, or one statement. -/
theorem after_cases (b : BillingBooks K) (x : Month K) (m : String) :
    ((b.run x).filter (fun r => r.merchantId = m) = [] ∧ (b.after x).of m = b.of m ∧
      statements (b.after x).ledger m = statements b.ledger m) ∨
    ∃ r ∈ b.run x, Bills x.opts (b.entries x) x.period m r ∧ (b.after x).of m = b.of m ++ [r] ∧
      statements (b.after x).ledger m =
        statements b.ledger m ++ [(x.instant, statementEntry x.opts.nowIso r)] := by
  have hof : (b.after x).of m = b.of m ++ (b.run x).filter fun r => r.merchantId = m :=
    List.filter_append _ _
  rw [b.after_ledger, statements_append, statements_entries, statements_statementEntry, hof]
  rcases b.run_cases x m with h | ⟨r, hr, hb, h⟩
  · exact .inl ⟨h, by simp [h], by simp [h]⟩
  · exact .inr ⟨r, hr, hb, by rw [h], by rw [h]; rfl⟩

/-- What a run adds with a result. -/
theorem run_mem {b : BillingBooks K} {x : Month K} {r : BillingMerchantResult K} (hr : r ∈ b.run x) :
    Bills x.opts (b.entries x) x.period r.merchantId r ∧
      (b.after x).of r.merchantId = b.of r.merchantId ++ [r] ∧
      statements (b.after x).ledger r.merchantId =
        statements b.ledger r.merchantId ++ [(x.instant, statementEntry x.opts.nowIso r)] := by
  have hmem : r ∈ (b.run x).filter fun r' => r'.merchantId = r.merchantId :=
    List.mem_filter.2 ⟨hr, by simp⟩
  rcases after_cases b x r.merchantId with ⟨h, -⟩ | ⟨r', -, hb, hof, hs⟩
  · rw [h] at hmem
    cases hmem
  · have hr' : (b.after x).of r.merchantId = b.of r.merchantId ++ (b.run x).filter fun r' =>
        r'.merchantId = r.merchantId := List.filter_append _ _
    rw [hof, List.append_right_inj] at hr'
    rw [← hr', List.mem_singleton] at hmem
    subst hmem
    exact ⟨hb, hof, hs⟩

/-- The books after some months. -/
def books (xs : List (Month K)) : BillingBooks K := xs.foldl BillingBooks.after ⟨[], []⟩

theorem books_concat (xs : List (Month K)) (x : Month K) :
    books (xs ++ [x]) = (books xs).after x := by
  simp [books]

/-- A condition that every run meets, with the books as they stand before it. -/
def EveryRun (P : BillingBooks K → Month K → Prop) (xs : List (Month K)) : Prop :=
  ∀ ys y zs, xs = ys ++ y :: zs → P (books ys) y

@[simp] theorem everyRun_nil (P : BillingBooks K → Month K → Prop) : EveryRun P [] := by
  intro ys y zs he
  simp at he

theorem everyRun_concat {P : BillingBooks K → Month K → Prop} {xs : List (Month K)} {x : Month K} :
    EveryRun P (xs ++ [x]) ↔ EveryRun P xs ∧ P (books xs) x := by
  constructor
  · intro h
    exact ⟨fun ys y zs he => h ys y (zs ++ [x]) (by simp [he]), h xs x [] rfl⟩
  · rintro ⟨h, hx⟩ ys y zs he
    rcases List.eq_nil_or_concat zs with rfl | ⟨zs, z, rfl⟩
    · obtain ⟨rfl, hxy⟩ := List.append_inj' he rfl
      obtain rfl : x = y := by simpa using hxy
      exact hx
    · rw [List.concat_eq_append, ← List.cons_append, ← List.append_assoc] at he
      exact h ys y zs (List.append_inj' he rfl).1

theorem everyRun_singleton {P : BillingBooks K → Month K → Prop} {x : Month K}
    (h : P (books []) x) : EveryRun P [x] :=
  everyRun_concat.2 ⟨everyRun_nil P, h⟩

/-- What every run keeps holds after the months. -/
theorem books_inv {P : BillingBooks K → Month K → Prop} {I : BillingBooks K → Prop} (empty : I ⟨[], []⟩)
    (step : ∀ xs x, InOrder (xs ++ [x]) → P (books xs) x → I (books xs) → I ((books xs).after x))
    {xs : List (Month K)} (hxs : InOrder xs) (h : EveryRun P xs) : I (books xs) := by
  induction xs using List.reverseRecOn with
  | nil => exact empty
  | append_singleton xs x ih =>
    obtain ⟨hxs', hx⟩ := everyRun_concat.1 h
    rw [books_concat]
    exact step xs x hxs hx (ih hxs.init.1 hxs')

/-- Statements are recorded at the instants of the runs. -/
theorem statements_instant {xs : List (Month K)} {m : String} {p : ℤ × LedgerEntry}
    (h : p ∈ statements (books xs).ledger m) : ∃ x ∈ xs, p.1 = x.instant := by
  induction xs using List.reverseRecOn with
  | nil => cases h
  | append_singleton xs x ih =>
    rw [books_concat] at h
    have old : p ∈ statements (books xs).ledger m → ∃ y ∈ xs ++ [x], p.1 = y.instant := fun hp => by
      obtain ⟨y, hy, he⟩ := ih hp
      exact ⟨y, List.mem_append_left _ hy, he⟩
    rcases after_cases (books xs) x m with ⟨-, -, hs⟩ | ⟨r, -, -, -, hs⟩
    · exact old (hs ▸ h)
    · rw [hs] at h
      rcases List.mem_append.1 h with h | h
      · exact old h
      · exact ⟨x, by simp, by rw [List.mem_singleton.1 h]⟩

/-- The watermark is the lower bound of the last statement recorded. -/
theorem priorBilled_books {xs : List (Month K)} (h : InOrder xs) (m : String) :
    priorBilledFromLedger (books xs).ledger m = (books xs).lastBound m := by
  induction xs using List.reverseRecOn with
  | nil => simp [books, priorBilledFromLedger, BillingBooks.lastBound, BillingBooks.of]
  | append_singleton xs x ih =>
    obtain ⟨hxs, hx⟩ := h.init
    rw [books_concat]
    rcases after_cases (books xs) x m with ⟨-, hof, hs⟩ | ⟨r, -, -, hof, hs⟩
    · rw [priorBilled_eq, hs, ← priorBilled_eq, ih hxs, BillingBooks.lastBound, BillingBooks.lastBound, hof]
    · have hl : ∀ p ∈ statements (books xs).ledger m, p.1 ≤ x.instant := fun p hp => by
        obtain ⟨y, hy, he⟩ := statements_instant hp
        exact he ▸ hx y hy
      rw [priorBilled_eq, hs, latest_concat_of_le hl, BillingBooks.lastBound, hof]
      simp [keptOf]

/-- The watermark that a run reads. -/
theorem priorBilled_entries {xs : List (Month K)} (h : InOrder xs) (x : Month K) (m : String) :
    priorBilledFromLedger ((books xs).entries x) m = (books xs).lastBound m := by
  rw [priorBilled_eq, statements_entries, ← priorBilled_eq, priorBilled_books h]

/-- A run moves the watermark to the lower bound of its statement. -/
theorem priorBilled_after {xs : List (Month K)} {x : Month K} (hxs : InOrder (xs ++ [x]))
    {r : BillingMerchantResult K} (hr : r ∈ (books xs).run x) :
    priorBilledFromLedger (books (xs ++ [x])).ledger r.merchantId =
      r.statement.result.lowerDollarsCum := by
  rw [priorBilled_books hxs, books_concat, BillingBooks.lastBound, (run_mem hr).2.1]
  simp

end

/-! ## A small cohort -/

namespace Sample

/-- The square roots and the logarithm the examples need. -/
def mathOps : MathOps ℚ where
  sqrt x := if x = 1000000 then 1000
    else if x = 64 / 39 * (6931471805599453 / 10 ^ 15) then 33726433198657397 / 10 ^ 16 else 0
  log x := if x = 1024 then 6931471805599453 / 10 ^ 15 else 0
  text _ := ""

/-- A config for four invoices. -/
def upliftConfig : SequentialUpliftConfig ℚ :=
  { defaultSequentialConfig ℚ with
    tau2 := 1560000, minControlClusters := 2, minTreatedInvoices := 2, perStratumFloor := 2
    expectedControlFraction := 1 / 2, useCuped := false }

/-- A run for a merchant whose certification is over. -/
def billing (config : SequentialUpliftConfig ℚ) (nowIso : String) : BillingRunOptions ℚ where
  ctx := {
    ops := mathOps
    config
    sha256 := fun text => text
    render := fun s => s.merchantId ++ ":" ++ s.period
    signer := ⟨"key_1", fun hash => hash⟩
    ledgerHead := "head_1"
    ledgerVerified := true
    generatedAt := nowIso }
  nowIso
  onboardedAt _ := some "2025-01-01T00:00:00.000Z"

/-- An invoice of a customer of its own is assigned to an arm. -/
def assigned (i bucket occurredAt : String) : LedgerEntry :=
  ⟨"mrc_1", .holdoutAssigned, occurredAt,
    [("invoiceId", .str i), ("customerId", .str ("cus_" ++ i)), ("bucket", .str bucket),
      ("amount", .num 12000)]⟩

/-- An amount of an invoice comes or goes. -/
def moved (type : LedgerEventType) (i : String) (amount : ℚ) (occurredAt : String) : LedgerEntry :=
  ⟨"mrc_1", type, occurredAt, [("invoiceId", .str i), ("amount", .num amount)]⟩

/-- Two treated invoices of a day are recovered, two in control are not. -/
def cohort (day : String) : List LedgerEntry :=
  [assigned (day ++ "a") "treatment" day, assigned (day ++ "b") "treatment" day,
    assigned (day ++ "c") "control" day, assigned (day ++ "d") "control" day,
    moved .caseRecovered (day ++ "a") 9000 day, moved .caseRecovered (day ++ "b") 11000 day]

/-- January: a cohort, billed on the first of February. -/
def january (config : SequentialUpliftConfig ℚ) : Month ℚ where
  activity := cohort "2026-01-15"
  quiet := by decide
  opts := billing config "2026-02-01T06:00:00.000Z"
  instant := 1769925600000
  parsed := by
    change Date.parse "2026-02-01T06:00:00.000Z" = _
    decide +kernel

/-- January, billed once more a day later. -/
def januaryAgain : Month ℚ where
  activity := []
  quiet := by decide
  opts := billing upliftConfig "2026-02-02T06:00:00.000Z"
  instant := 1770012000000
  parsed := by
    change Date.parse "2026-02-02T06:00:00.000Z" = _
    decide +kernel

/-- February: what happens, billed on the first of March. -/
def february (activity : List LedgerEntry) (quiet : ∀ e ∈ activity, e.type ≠ .upliftStatement) :
    Month ℚ where
  activity
  quiet
  opts := billing upliftConfig "2026-03-01T06:00:00.000Z"
  instant := 1772344800000
  parsed := by
    change Date.parse "2026-03-01T06:00:00.000Z" = _
    decide +kernel

end Sample

end AX10M
