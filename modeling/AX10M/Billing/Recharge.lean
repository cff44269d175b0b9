/-
  Charges of a run that is made again (`billing/stripe-billing-charger.ts`).

  The processor is to collect a fee once however often it is asked for it: its key ends in the hash
  of the statement.  But a statement carries the instant at which it was built, and the amount is
  after a credit that depends on the day of the run (`recharge_iff`).
-/
import AX10M.Billing.Job

namespace AX10M

open Js

/-! ## Requests -/

/-- What a request takes over from the charge. -/
theorem chargePost_ok {account : Option BillingAccount} {req : BillingChargeRequest}
    {post : StripePost} (h : chargePost account req = .ok post) :
    post.idempotencyKey = "ax10m-bill-" ++ req.merchantId ++ "-" ++ req.period ++ "-" ++
        String.ofList (req.statementHash.toList.take 24) ∧
      post.params.get "amount" = some (.num req.amountMinor) := by
  unfold chargePost at h
  split at h
  · cases h
  · split_ifs at h
    split at h
    · obtain rfl := Except.ok.inj h
      exact ⟨rfl, rfl⟩
    · cases h

/-- What is billed, if anything is, is the fee without the cost of the holdout. -/
theorem netBilled_eq {K : Type} [Field K] [LinearOrder K] [FloorRing K] {fee : ℤ} {lift : K}
    {treated : ℕ} {h : ℚ} (hpos : 0 < (computeHoldoutEconomics fee lift treated h).netBilledMinor) :
    (computeHoldoutEconomics fee lift treated h).netBilledMinor =
      fee - (computeHoldoutEconomics fee lift treated h).estimatedHoldoutCostMinor := by
  simp only [computeHoldoutEconomics] at hpos ⊢
  omega

section

variable {K : Type}

/-- Statements that differ at most in their instants have one text exactly if they are equal. -/
theorem stableStringify_generatedAt {resultText : BillableUpliftResult K → List Char}
    {s : BillableStatement K} {generatedAt : String} :
    stableStringify resultText s = stableStringify resultText { s with generatedAt } ↔
      s.generatedAt = generatedAt := by
  constructor
  · intro h
    have htext := String.ofList_inj.1 h
    simp only [joinFields, List.cons.injEq, List.cons_append, List.append_assoc,
      List.append_cancel_left_eq, true_and] at htext
    exact (quote_unambiguous htext).1
  · rintro rfl
    rfl

/-- Different texts whose digests agree in what the key takes of them. -/
def KeysCollide (sha256 : Digest) (text text' : String) : Prop :=
  text ≠ text' ∧ (sha256 text).toList.take 24 = (sha256 text').toList.take 24

/-- Two runs of one program: they compute and render statements alike. -/
structure OneProgram (resultText : BillableUpliftResult K → List Char)
    (opts opts' : BillingJobOptions K) : Prop where
  ops : opts'.ctx.ops = opts.ctx.ops
  config : opts'.ctx.config = opts.ctx.config
  sha256 : opts'.ctx.sha256 = opts.ctx.sha256
  render : opts.ctx.render = stableStringify resultText
  render' : opts'.ctx.render = stableStringify resultText

variable [Field K] [LinearOrder K] [FloorRing K]

/-- The requests that a run sends for a merchant. -/
def postsFor (opts : BillingJobOptions K) (entries : List ChainEntry)
    (ledgerHead merchantId : String) : List StripePost :=
  let opts := opts.reading entries ledgerHead
  ((jobResults opts (entries.map billingEntry)).filter fun r =>
    r.merchantId = merchantId ∧ r.charge.isSome).filterMap fun r =>
      (chargePost (accountForMerchant opts.accounts merchantId) (chargeRequest r)).toOption

/-- The statement of a run for a merchant. -/
def runStatement (opts : BillingJobOptions K) (entries : List ChainEntry) (ledgerHead : String)
    (p : BillingPeriod) (m : String) : BillableStatement K :=
  statementOf ((opts.reading entries ledgerHead).at m) (entries.map billingEntry) p m

/-- The cost of the holdout as a run estimates it: at the fraction of its day. -/
def holdoutCost (opts : BillingJobOptions K) (entries : List ChainEntry) (ledgerHead : String)
    (p : BillingPeriod) (m : String) : ℤ :=
  let result := (runStatement opts entries ledgerHead p m).result
  let fraction := holdoutOf ((opts.reading entries ledgerHead).at m) (entries.map billingEntry) m
  (computeHoldoutEconomics result.fee result.deltaPer result.treatedInvoices
    fraction).estimatedHoldoutCostMinor

/-- The key and the amount of a request. -/
theorem postsFor_mem {opts : BillingJobOptions K} {entries : List ChainEntry}
    {ledgerHead m : String} {p : BillingPeriod} (hp : previousMonth opts.nowIso = .ok p)
    {post : StripePost} (h : post ∈ postsFor opts entries ledgerHead m) :
    let s := runStatement opts entries ledgerHead p m
    post.idempotencyKey = "ax10m-bill-" ++ m ++ "-" ++ p.label ++ "-" ++
        String.ofList ((opts.ctx.sha256 (opts.ctx.render s)).toList.take 24) ∧
      post.params.get "amount" =
        some (.num ((s.result.fee - holdoutCost opts entries ledgerHead p m : ℤ) : ℚ)) := by
  intro s
  obtain ⟨r, hr, hpost⟩ := List.mem_filterMap.1 h
  obtain ⟨hr, hsent⟩ := List.mem_filter.1 hr
  obtain ⟨hm, hcharge⟩ := of_decide_eq_true hsent
  obtain ⟨-, p', hp', hbilled⟩ := jobResults_mem hr
  obtain rfl : p = p' := Except.ok.inj (hp.symm.trans hp')
  rw [hm] at hbilled
  have hstatement : r.statement = signStatement opts.ctx s := hbilled.statement
  have hpos : 0 < r.economics.netBilledMinor := by
    by_contra hle
    rw [hbilled.charge] at hcharge
    simp [hle] at hcharge
  have hnet : r.economics.netBilledMinor =
      s.result.fee - holdoutCost opts entries ledgerHead p m := by
    have heconomics := hbilled.economics
    rw [hstatement] at heconomics
    rw [heconomics] at hpos ⊢
    exact netBilled_eq hpos
  have hpost : (chargePost (accountForMerchant opts.accounts m) (chargeRequest r)).toOption =
      some post := hpost
  cases hrequest : chargePost (accountForMerchant opts.accounts m) (chargeRequest r) with
  | error receipt =>
    rw [hrequest] at hpost
    cases hpost
  | ok post' =>
    rw [hrequest] at hpost
    obtain rfl := Option.some.inj hpost
    obtain ⟨hkey, hamount⟩ := chargePost_ok hrequest
    rw [hkey, hamount, chargeRequest, hnet, hstatement, hm, hbilled.period]
    exact ⟨rfl, rfl⟩

/-- Two runs of one month that read the same entries and head, and that both send a request for a
    merchant: the requests have one key and one amount exactly if the statements carry the same
    instant, or their texts collide in the key, and the holdout is estimated to cost the same. -/
theorem recharge_iff {resultText : BillableUpliftResult K → List Char}
    {opts opts' : BillingJobOptions K} (h : OneProgram resultText opts opts') {p : BillingPeriod}
    (hp : previousMonth opts.nowIso = .ok p) (hp' : previousMonth opts'.nowIso = .ok p)
    (entries : List ChainEntry) (ledgerHead m : String) :
    ∀ post ∈ postsFor opts entries ledgerHead m, ∀ post' ∈ postsFor opts' entries ledgerHead m,
      (post.idempotencyKey = post'.idempotencyKey ∧
          post.params.get "amount" = post'.params.get "amount" ↔
        (opts.clock m = opts'.clock m ∨ KeysCollide opts.ctx.sha256
          (stableStringify resultText (runStatement opts entries ledgerHead p m))
          (stableStringify resultText (runStatement opts' entries ledgerHead p m))) ∧
        holdoutCost opts entries ledgerHead p m = holdoutCost opts' entries ledgerHead p m) := by
  intro post hpost post' hpost'
  obtain ⟨hkey, hamount⟩ := postsFor_mem hp hpost
  obtain ⟨hkey', hamount'⟩ := postsFor_mem hp' hpost'
  have hsame : runStatement opts' entries ledgerHead p m =
      { runStatement opts entries ledgerHead p m with generatedAt := opts'.clock m } := by
    simp only [runStatement, statementOf, measureCohort, BillingJobOptions.at,
      BillingJobOptions.reading, h.ops, h.config, h.sha256]
  have hresult : (runStatement opts' entries ledgerHead p m).result =
      (runStatement opts entries ledgerHead p m).result := by rw [hsame]
  have htext : stableStringify resultText (runStatement opts entries ledgerHead p m) =
      stableStringify resultText (runStatement opts' entries ledgerHead p m) ↔
      opts.clock m = opts'.clock m := by
    rw [hsame]
    exact stableStringify_generatedAt
  rw [hkey, hkey', hamount, hamount', hresult, h.sha256, h.render, h.render',
    String.append_right_inj, String.ofList_inj, Option.some.injEq, Json.num.injEq,
    Int.cast_inj, sub_right_inj, ← htext]
  refine and_congr_left fun _ => ⟨fun hdigits => ?_, ?_⟩
  · by_cases heq : stableStringify resultText (runStatement opts entries ledgerHead p m) =
        stableStringify resultText (runStatement opts' entries ledgerHead p m)
    · exact .inl heq
    · exact .inr ⟨heq, hdigits⟩
  · rintro (heq | ⟨-, hdigits⟩)
    · rw [heq]
    · exact hdigits

end

namespace Sample

/-- A digest of 96 bits. -/
def sha96 : Digest := fun text =>
  toString (text.toByteArray.data.toList.foldl (fun h b => (h * 1000003 + b.toNat) % 2 ^ 96) 1)

/-- The text of a result, short. -/
def resultText (result : BillableUpliftResult ℚ) : List Char :=
  stringify (.obj [("billable", .bool result.billable), ("fee", .num result.fee)])

/-- A live job of the first of February at an instant; its statements are built later. -/
def jobAt (nowIso builtIso : String) : BillingJobOptions ℚ :=
  let run := billing upliftConfig nowIso
  { ctx := { run.ctx with sha256 := sha96, render := stableStringify resultText }
    nowIso
    live := true
    charger := stripeCharge (accountForMerchant [autoPayAccount])
      fun _ => .error "socket hang up"
    clock := fun _ => builtIso
    accounts := [autoPayAccount]
    remitTo := "billing@ax10m.example" }

/-- The entries of January's ledger. -/
def januaryEntries : List ChainEntry :=
  (HashChainedLedger.ofInputs sha96 ((cohort "2026-01-15").map LedgerEntry.toInput)).entries

/-- The requests of a run of January's ledger, which verifies. -/
theorem postsFor_jobAt (nowIso builtIso ledgerHead : String) :
    postsFor (jobAt nowIso builtIso) januaryEntries ledgerHead "mrc_1" =
      let opts := jobAt nowIso builtIso
      ((jobResults { opts with
          ctx := { opts.ctx with ledgerHead, ledgerVerified := true }
          onboardedAt := onboardedAtOf opts.accounts } (januaryEntries.map billingEntry)).filter
        fun r => r.merchantId = "mrc_1" ∧ r.charge.isSome).filterMap fun r =>
          (chargePost (accountForMerchant opts.accounts "mrc_1") (chargeRequest r)).toOption := by
  have hvalid : (verifyChain sha96 januaryEntries).valid = true :=
    (verifyChain_valid _ _).2 (ofInputs_chained _ _)
  have hsha : (jobAt nowIso builtIso).ctx.sha256 = sha96 := rfl
  simp only [postsFor, BillingJobOptions.reading, hsha, hvalid]

end Sample

/-- The answer to a charge is lost, and the run is made again three minutes later: the same amount
    is asked for under another key. -/
theorem recharge_fails :
    let opts := Sample.jobAt "2026-02-01T06:00:00.000Z" "2026-02-01T06:00:01.250Z"
    let again := Sample.jobAt "2026-02-01T06:03:00.000Z" "2026-02-01T06:03:01.875Z"
    let ledgerHead := (HashChainedLedger.mk Sample.januaryEntries).head
    let posts := postsFor opts Sample.januaryEntries ledgerHead "mrc_1"
    let posts' := postsFor again Sample.januaryEntries ledgerHead "mrc_1"
    posts.map (fun post => num (post.params.get "amount")) = [1183] ∧
      posts'.map (fun post => num (post.params.get "amount")) = [1183] ∧
      posts.map StripePost.idempotencyKey ≠ posts'.map StripePost.idempotencyKey := by
  simp only [Sample.postsFor_jobAt]
  decide +kernel

/-- Statements that are built at one instant are charged under one key. -/
theorem recharge_at_once :
    let opts := Sample.jobAt "2026-02-01T06:00:00.000Z" "2026-02-01T06:03:01.875Z"
    let again := Sample.jobAt "2026-02-01T06:03:00.000Z" "2026-02-01T06:03:01.875Z"
    let ledgerHead := (HashChainedLedger.mk Sample.januaryEntries).head
    ∃ post ∈ postsFor opts Sample.januaryEntries ledgerHead "mrc_1",
      ∃ post' ∈ postsFor again Sample.januaryEntries ledgerHead "mrc_1",
        post.idempotencyKey = post'.idempotencyKey ∧
          post.params.get "amount" = post'.params.get "amount" := by
  intro opts again ledgerHead
  have hlength : (postsFor opts Sample.januaryEntries ledgerHead "mrc_1").length = 1 ∧
      (postsFor again Sample.januaryEntries ledgerHead "mrc_1").length = 1 := by decide +kernel
  obtain ⟨post, hpost⟩ := List.length_eq_one_iff.1 hlength.1
  obtain ⟨post', hpost'⟩ := List.length_eq_one_iff.1 hlength.2
  have hmem : post ∈ postsFor opts Sample.januaryEntries ledgerHead "mrc_1" := by simp [hpost]
  have hmem' : post' ∈ postsFor again Sample.januaryEntries ledgerHead "mrc_1" := by simp [hpost']
  refine ⟨post, hmem, post', hmem', ?_⟩
  have hone : OneProgram Sample.resultText opts again := ⟨rfl, rfl, rfl, rfl, rfl⟩
  have hp : previousMonth opts.nowIso = .ok (monthBefore 1769925600000) := by decide +kernel
  have hp' : previousMonth again.nowIso = .ok (monthBefore 1769925600000) := by decide +kernel
  have hcost :
      holdoutCost opts Sample.januaryEntries ledgerHead (monthBefore 1769925600000) "mrc_1" =
        holdoutCost again Sample.januaryEntries ledgerHead (monthBefore 1769925600000) "mrc_1" := by
    decide +kernel
  exact (recharge_iff hone hp hp' _ _ _ post hmem post' hmem').2 ⟨.inl rfl, hcost⟩

end AX10M
