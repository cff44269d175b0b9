/-
  What a bill is bound to (`billing/billing-job.ts`, `billing/billing-run.ts`).

  The job reads all entries, then the head, and others append between the two reads; an append is
  a transaction under a lock, so that the appends come one after the other.  What was read is only
  put into the statement: neither the charge nor the invoice asks whether the chain verifies, or
  whether the head is that of the entries (`bill_bound_iff`).
-/
import AX10M.Billing.Job
import AX10M.Persistence.Reads
import AX10M.Persistence.SharedLedger

namespace AX10M

open Js

/-- The effect takes money, or asks for it: a charge that is made, or an invoice. -/
def JobEffect.collects : JobEffect → Bool
  | .append _ => false
  | .charge _ receipt => receipt.status = .charged
  | .upsertInvoice _ => true

section

variable {K : Type}

/-- The effects of the job for a result. -/
def effectsFor (opts : BillingJobOptions K) (r : BillingMerchantResult K) : List JobEffect :=
  merchantEffects opts r ++ ((issuedInvoice opts r).map JobEffect.upsertInvoice).toList

/-- What the job does is done for a result. -/
theorem mem_jobEffects {opts : BillingJobOptions K} {results : List (BillingMerchantResult K)}
    {effect : JobEffect} :
    effect ∈ jobEffects opts results ↔ ∃ r ∈ results, effect ∈ effectsFor opts r := by
  simp only [jobEffects, effectsFor, List.mem_append, List.mem_flatMap, List.mem_map,
    List.mem_filterMap, Option.mem_toList, Option.map_eq_some_iff]
  constructor
  · rintro (⟨r, hr, he⟩ | ⟨invoice, ⟨r, hr, hi⟩, rfl⟩)
    · exact ⟨r, hr, .inl he⟩
    · exact ⟨r, hr, .inr ⟨invoice, hi, rfl⟩⟩
  · rintro ⟨r, hr, he | ⟨invoice, hi, rfl⟩⟩
    · exact .inl ⟨r, hr, he⟩
    · exact .inr ⟨invoice, ⟨r, hr, hi⟩, rfl⟩

/-- The entries that the fee of a result was computed from verify, and the head that its statement
    signs is the hash of the last of them. -/
def BoundTo (sha256 : Digest) (entries : List ChainEntry) (r : BillingMerchantResult K) : Prop :=
  (verifyChain sha256 entries).valid ∧
    r.statement.ledgerHead = (HashChainedLedger.mk entries).head

instance (sha256 : Digest) (entries : List ChainEntry) (r : BillingMerchantResult K) :
    Decidable (BoundTo sha256 entries r) :=
  inferInstanceAs (Decidable (_ ∧ _))

variable [Field K] [LinearOrder K] [FloorRing K]

/-- The statements of a job sign the head that was read. -/
theorem jobResults_ledgerHead {opts : BillingJobOptions K} {entries : List LedgerEntry}
    {r : BillingMerchantResult K} (hr : r ∈ jobResults opts entries) :
    r.statement.ledgerHead = opts.ctx.ledgerHead := by
  obtain ⟨-, period, -, hbilled⟩ := jobResults_mem hr
  rw [hbilled.statement]
  rfl

/-- A job that bills has read an entry. -/
theorem ne_nil_of_jobResults {opts : BillingJobOptions K} {entries : List ChainEntry}
    {r : BillingMerchantResult K} (hr : r ∈ jobResults opts (entries.map billingEntry)) :
    entries ≠ [] := by
  rintro rfl
  obtain ⟨hm, -⟩ := jobResults_mem hr
  cases hm

/-- Whatever a job collects is bound to a verified ledger exactly if the ledger verifies when its
    entries are read, and nothing is appended before its head is. -/
theorem bill_bound_iff (opts : BillingJobOptions K)
    (hinj : Function.Injective opts.ctx.sha256) (hhex : Hexadecimal opts.ctx.sha256)
    {store : RowStore} (hstore : Stores store) (table : List Row)
    (hdecimal : ∀ e ∈ LedgerRepository.all table, AllDecimal e.detail)
    (inputs : List LedgerAppendInput) (hjson : ∀ input ∈ inputs, JsonValued (.obj input.detail)) :
    let entries := LedgerRepository.all table
    let table' := LedgerRepository.appendEach opts.ctx.sha256 store table inputs
    let ledgerHead := LedgerRepository.head table'
    let opts' := opts.reading entries ledgerHead
    ∀ effect ∈ runBillingJob opts entries ledgerHead, effect.collects →
      ∃ r ∈ jobResults opts' (entries.map billingEntry), effect ∈ effectsFor opts' r ∧
        (BoundTo opts.ctx.sha256 entries r ↔
          (verifyChain opts.ctx.sha256 entries).valid ∧ table' = table) := by
  intro entries table' ledgerHead opts' effect heffect _
  obtain ⟨r, hr, he⟩ := mem_jobEffects.1 heffect
  refine ⟨r, hr, he, and_congr_right fun hvalid => ?_⟩
  have hchained := (verifyChain_valid _ _).1 hvalid
  have hhead : r.statement.ledgerHead = ledgerHead := jobResults_ledgerHead hr
  rw [hhead]
  constructor
  · intro h
    exact head_ne_of_appended hinj hhex hstore hchained (ne_nil_of_jobResults hr) hdecimal hjson h
  · intro h
    show LedgerRepository.head table' = _
    rw [h]
    exact head_all hchained

end

namespace Sample

/-- The live job on the first of February. -/
def februaryJob : BillingJobOptions ℚ :=
  let run := billing upliftConfig "2026-02-01T06:00:00.000Z"
  { ctx := { run.ctx with sha256 := unarySha256 }
    nowIso := run.nowIso
    live := true
    charger := stripeCharge (accountForMerchant [autoPayAccount])
      fun _ => .intent (some "succeeded") (some "pi_1") false
    clock := fun _ => "2026-02-01T06:00:01.250Z"
    accounts := [autoPayAccount]
    remitTo := "billing@ax10m.example" }

/-- What is appended in January. -/
def januaryInputs : List LedgerAppendInput :=
  ⟨"mrc_1", "comms.sent", "2026-01-14T09:00:00.000Z", [("channel", .str "email")]⟩ ::
    (cohort "2026-01-15").map LedgerEntry.toInput

/-- The persisted ledger of January. -/
def januaryTable : List Row := (HashChainedLedger.ofInputs unarySha256 januaryInputs).entries

/-- What another process appends while the job reads. -/
def lateRecovery : LedgerAppendInput :=
  (moved .caseRecovered "2026-01-15c" 8000 "2026-02-01T05:59:59.000Z").toInput

theorem januaryTable_all : LedgerRepository.all januaryTable = januaryTable :=
  (keepsChain_ofInputs unarySha256 januaryInputs).all_eq

theorem januaryTable_valid :
    (verifyChain unarySha256 (LedgerRepository.all januaryTable)).valid := by
  rw [januaryTable_all]
  exact (verifyChain_valid _ _).2 (ofInputs_chained _ _)

theorem assigned_json (i bucket occurredAt : String) :
    JsonValued (.obj (assigned i bucket occurredAt).toInput.detail) := by
  refine ⟨by simp [LedgerEntry.toInput, assigned, DistinctKeys, DistinctKeysFields], ?_⟩
  simp only [LedgerEntry.toInput, assigned, AllDecimal, AllDecimalFields, true_and, and_true]
  decide

theorem moved_json (type : LedgerEventType) (i : String) {amount : ℚ} (h : IsDecimal amount)
    (occurredAt : String) : JsonValued (.obj (moved type i amount occurredAt).toInput.detail) := by
  refine ⟨by simp [LedgerEntry.toInput, moved, DistinctKeys, DistinctKeysFields], ?_⟩
  simpa [LedgerEntry.toInput, moved, AllDecimal, AllDecimalFields] using h

theorem januaryInputs_json : ∀ input ∈ januaryInputs, JsonValued (.obj input.detail) := by
  intro input hmem
  simp only [januaryInputs, cohort, List.map_cons, List.map_nil, List.mem_cons, List.not_mem_nil,
    or_false] at hmem
  rcases hmem with rfl | rfl | rfl | rfl | rfl | rfl | rfl
  · exact ⟨by simp [DistinctKeys, DistinctKeysFields], by simp [AllDecimal, AllDecimalFields]⟩
  · exact assigned_json _ _ _
  · exact assigned_json _ _ _
  · exact assigned_json _ _ _
  · exact assigned_json _ _ _
  · exact moved_json _ _ (by decide) _
  · exact moved_json _ _ (by decide) _

theorem januaryTable_decimal : ∀ e ∈ LedgerRepository.all januaryTable, AllDecimal e.detail := by
  intro e he
  rw [januaryTable_all] at he
  have hdetail := List.mem_map_of_mem (f := fun e : ChainEntry => e.detail) he
  rw [januaryTable, ofInputs_details] at hdetail
  obtain ⟨input, hinput, heq⟩ := List.mem_map.1 hdetail
  exact heq ▸ (januaryInputs_json input hinput).decimal

/-- The late recovery is stored. -/
theorem appendEach_late_length : (LedgerRepository.appendEach unarySha256 jsonbStore januaryTable
    [lateRecovery]).length = januaryTable.length + 1 := by
  decide +kernel

end Sample

/-- The first entry of a ledger was deleted, and it is billed; so is one that another process
    appends to between the two reads, and the statement signs a head that is not that of the
    entries. -/
theorem bill_bound_fails :
    let sha256 := Sample.unarySha256
    let opts := Sample.februaryJob
    let cut := LedgerRepository.all (Sample.januaryTable.drop 1)
    let cutHead := LedgerRepository.head (Sample.januaryTable.drop 1)
    let entries := LedgerRepository.all Sample.januaryTable
    let laterHead := LedgerRepository.head (LedgerRepository.appendEach sha256 Sample.jsonbStore
      Sample.januaryTable [Sample.lateRecovery])
    (runBillingJob opts cut cutHead).map JobEffect.collects = [false, true, true] ∧
      (verifyChain sha256 cut).valid = false ∧
      (runBillingJob opts entries laterHead).map JobEffect.collects = [false, true, true] ∧
      (verifyChain sha256 entries).valid ∧
      ∀ r ∈ jobResults (opts.reading entries laterHead) (entries.map billingEntry),
        r.statement.ledgerHead ≠ (HashChainedLedger.mk entries).head := by
  intro sha256 opts cut cutHead entries laterHead
  refine ⟨by decide +kernel, by decide +kernel, by decide +kernel, Sample.januaryTable_valid,
    fun r hr hhead => ?_⟩
  have hlate : ∀ input ∈ [Sample.lateRecovery], JsonValued (.obj input.detail) := by
    intro input hinput
    rw [List.mem_singleton.1 hinput]
    exact Sample.moved_json _ _ (by decide) _
  rw [jobResults_ledgerHead hr] at hhead
  have hsame := head_ne_of_appended Sample.unarySha256_injective Sample.unarySha256_hexadecimal
    Sample.jsonbStore_stores ((verifyChain_valid _ _).1 Sample.januaryTable_valid)
    (ne_nil_of_jobResults hr) Sample.januaryTable_decimal hlate hhead
  have hlength := Sample.appendEach_late_length
  rw [hsame] at hlength
  omega

/-- Nothing is appended between the two reads of January's ledger, which verifies. -/
theorem bill_bound_quiet :
    let opts := Sample.februaryJob
    let entries := LedgerRepository.all Sample.januaryTable
    let opts' := opts.reading entries (LedgerRepository.head Sample.januaryTable)
    ∃ effect ∈ runBillingJob opts entries (LedgerRepository.head Sample.januaryTable),
      effect.collects ∧ ∃ r ∈ jobResults opts' (entries.map billingEntry),
        effect ∈ effectsFor opts' r ∧ BoundTo Sample.unarySha256 entries r := by
  intro opts entries opts'
  have hany : (runBillingJob opts entries (LedgerRepository.head Sample.januaryTable)).any
      JobEffect.collects := by decide +kernel
  obtain ⟨effect, heffect, hcollects⟩ := List.any_eq_true.1 hany
  obtain ⟨r, hr, he, hbound⟩ := bill_bound_iff opts Sample.unarySha256_injective
    Sample.unarySha256_hexadecimal Sample.jsonbStore_stores Sample.januaryTable
    Sample.januaryTable_decimal [] (by simp) effect heffect hcollects
  exact ⟨effect, heffect, hcollects, r, hr, he, hbound.2 ⟨Sample.januaryTable_valid, rfl⟩⟩

end AX10M
