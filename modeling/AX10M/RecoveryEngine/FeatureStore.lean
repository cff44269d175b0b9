/-
  What the feature store learns (`feature-store.ts` of `@ax10m/recovery-engine`).

  A run is a sequence of contacts and outcomes, of any customers and cards, that a deployment's
  store sees.  The rates of a failure's features are those of the outcomes of its customer and of
  its issuer, shrunk toward their priors, in whatever order they came (`rates_run`); a customer's
  tenure counts from the first signup date, else from the earliest contact (`tenure_run`).  An
  issuer is looked up in a table of prefixes, whose order does not matter (`binTable_run`).
-/
import AX10M.RecoveryEngine
import AX10M.Tables.Prefixes
import Mathlib.Algebra.Order.Field.Rat
import Mathlib.Data.List.Induction
import Mathlib.Order.Bounds.Basic
import Mathlib.Tactic.FieldSimp
import Mathlib.Tactic.Linarith
import Mathlib.Tactic.Positivity
import Mathlib.Tactic.Ring

namespace AX10M

open Js

/-! ## The table of BINs -/

/-- A rule of the table: the digits that a BIN starts with, and what is known of its cards. -/
structure BinRange extends BinInfo where
  /-- `prefix` -/
  digits : String

namespace BinRegionIndex

def unknownBin : BinInfo := ⟨.unknown, none, none⟩

/-- The digits of a BIN. -/
def digitsOf (bin : String) : List Char := bin.toList.filter Char.isDigit

def table (ranges : List BinRange) : List (List Char × BinInfo) :=
  ranges.map fun r => (r.digits.toList, r.toBinInfo)

/-- The most specific match. -/
def lookup (ranges : List BinRange) (bin : Option String) : BinInfo :=
  match truthy bin with
  | none => unknownBin
  | some bin => ((Prefixes.lookup (table ranges) (digitsOf bin)).map Prod.snd).getD unknownBin

variable {ranges ranges' : List BinRange} (h : (ranges.map BinRange.digits).Nodup)

include h

theorem table_nodup : ((table ranges).map Prod.fst).Nodup := by
  have heq : (table ranges).map Prod.fst = (ranges.map BinRange.digits).map String.toList := by
    simp [table]
  rw [heq]
  exact h.map fun _ _ heq => String.toList_injective heq

/-- The order of a table of distinct prefixes does not matter. -/
theorem lookup_perm (hperm : ranges.Perm ranges') : lookup ranges = lookup ranges' := by
  have htable : Prefixes.lookup (table ranges) = Prefixes.lookup (table ranges') :=
    Prefixes.lookup_perm (table_nodup h) (hperm.map _)
  funext bin
  rw [lookup, lookup, htable]

end BinRegionIndex

/-- `DEFAULT_BIN_REGION_INDEX` -/
def defaultBinRegionIndex : List BinRange :=
  [{ digits := "4", region := .na },
    { digits := "41", region := .na },
    { digits := "42", region := .emea },
    { digits := "49", region := .emea },
    { digits := "414720", region := .na, issuerId := some "example_bank_na",
      cardType := some .credit },
    { digits := "51", region := .na },
    { digits := "52", region := .latam },
    { digits := "53", region := .emea },
    { digits := "55", region := .na },
    { digits := "35", region := .apac },
    { digits := "62", region := .apac },
    { digits := "34", region := .na },
    { digits := "37", region := .na }]

/-- The default configuration, with a table. -/
def featureStoreConfig (ranges : List BinRange) : FeatureStoreConfig :=
  { defaultFeatureStoreConfig with lookup := BinRegionIndex.lookup ranges }

/-! ## Runs -/

/-- What the store is told: a contact, or an outcome. -/
inductive FeatureCall where
  | observe (merchantId customerId now : String) (customerCreatedAt : Option String)
  | recordOutcome (merchantId customerId : String) (bin : Option String) (recovered : Bool)
      (now : String)

namespace FeatureCall

def apply (cfg : FeatureStoreConfig) (st : FeatureStore) : FeatureCall → FeatureStore
  | observe merchantId customerId now customerCreatedAt =>
    st.observe merchantId customerId now customerCreatedAt
  | recordOutcome merchantId customerId bin recovered now =>
    st.recordOutcome cfg merchantId customerId bin recovered now

/-- The customer that a call is about. -/
def key : FeatureCall → String
  | observe merchantId customerId .. => FeatureStore.customerKey merchantId customerId
  | recordOutcome merchantId customerId .. => FeatureStore.customerKey merchantId customerId

/-- The instant of a call. -/
def now : FeatureCall → String
  | observe _ _ now _ => now
  | recordOutcome _ _ _ _ now => now

/-- The signup date that a call gives. -/
def createdAt : FeatureCall → Option String
  | observe _ _ _ customerCreatedAt => customerCreatedAt
  | recordOutcome .. => none

/-- The signup date that a call gives, if it is not empty. -/
def signup (call : FeatureCall) : Option String := truthy call.createdAt

/-- The time of a contact. -/
def contact : FeatureCall → Option ℤ
  | observe _ _ now _ => Date.parse now
  | recordOutcome .. => none

/-- The outcome that a call records. -/
def outcome : FeatureCall → Option Bool
  | observe .. => none
  | recordOutcome _ _ _ recovered _ => some recovered

/-- The outcome that a call records of an issuer. -/
def issuerOutcome (cfg : FeatureStoreConfig) (issuer : String) : FeatureCall → Option Bool
  | observe .. => none
  | recordOutcome _ _ bin recovered _ =>
    if FeatureStore.issuerKeyFor cfg bin = some issuer then some recovered else none

/-- What a call makes of its customer. -/
def agg (c : Option CustomerAgg) : FeatureCall → CustomerAgg
  | observe _ _ now customerCreatedAt => FeatureStore.seen c now customerCreatedAt
  | recordOutcome _ _ _ recovered now =>
    let c := c.getD ⟨0, 0, now, none⟩
    { c with total := c.total + 1, recovered := c.recovered + if recovered then 1 else 0 }

/-- A call changes its own customer. -/
theorem apply_customers_get (cfg : FeatureStoreConfig) (st : FeatureStore) (call : FeatureCall)
    (k : String) : (call.apply cfg st).customers.get k =
      if call.key = k then some (call.agg (st.customers.get k)) else st.customers.get k := by
  cases call with
  | observe merchantId customerId now customerCreatedAt =>
    rw [apply, FeatureStore.observe]
    dsimp only
    rw [Map.get_set]
    by_cases hk : k = FeatureStore.customerKey merchantId customerId
    · subst hk
      rw [if_pos rfl, key, if_pos rfl]
      rfl
    · rw [if_neg hk, key, if_neg (Ne.symm hk)]
  | recordOutcome merchantId customerId bin recovered now =>
    rw [apply, FeatureStore.recordOutcome_customers]
    dsimp only
    rw [Map.get_set]
    by_cases hk : k = FeatureStore.customerKey merchantId customerId
    · subst hk
      rw [if_pos rfl, key, if_pos rfl]
      rfl
    · rw [if_neg hk, key, if_neg (Ne.symm hk)]

end FeatureCall

namespace FeatureStore

/-- The store after calls. -/
def after (cfg : FeatureStoreConfig) (calls : List FeatureCall) : FeatureStore :=
  calls.foldl (FeatureCall.apply cfg) empty

/-- What calls make of their one customer. -/
def aggOf (calls : List FeatureCall) : Option CustomerAgg :=
  calls.foldl (fun c call => some (call.agg c)) none

/-- The calls that are about a customer. -/
def about (k : String) (calls : List FeatureCall) : List FeatureCall :=
  calls.filter fun call => call.key = k

/-- The outcomes of the customer of a failure. -/
def customerOutcomes (ctx : EnrichmentContext) (calls : List FeatureCall) : List Bool :=
  (about (customerKey ctx.merchantId ctx.customerId) calls).filterMap FeatureCall.outcome

/-- The outcomes of the issuer of a failure's card. -/
def issuerOutcomes (cfg : FeatureStoreConfig) (ctx : EnrichmentContext) (calls : List FeatureCall) :
    List Bool :=
  match issuerKeyFor cfg ctx.bin with
  | none => []
  | some issuer => calls.filterMap (FeatureCall.issuerOutcome cfg issuer)

variable {cfg : FeatureStoreConfig} {calls calls' : List FeatureCall} {call : FeatureCall}

theorem after_concat : after cfg (calls ++ [call]) = call.apply cfg (after cfg calls) := by
  simp [after]

theorem aggOf_concat : aggOf (calls ++ [call]) = some (call.agg (aggOf calls)) := by
  simp [aggOf]

/-- A customer is what the calls about it make of it. -/
theorem after_customers_get (k : String) :
    (after cfg calls).customers.get k = aggOf (about k calls) := by
  induction calls using List.reverseRecOn with
  | nil => rfl
  | append_singleton calls call ih =>
    rw [after_concat, FeatureCall.apply_customers_get, ih, about, about, List.filter_append]
    by_cases hk : call.key = k
    · rw [if_pos hk, List.filter_cons_of_pos (by simpa using hk), List.filter_nil, aggOf_concat]
    · rw [if_neg hk, List.filter_cons_of_neg (by simpa using hk), List.filter_nil,
        List.append_nil]

/-! ## Counts -/

theorem count_concat (outcomes : List Bool) (b : Bool) :
    (outcomes ++ [b]).count true = outcomes.count true + if b then 1 else 0 := by
  cases b <;> simp

theorem aggOf_counts (calls : List FeatureCall) :
    ((aggOf calls).map CustomerAgg.total).getD 0 =
        (calls.filterMap FeatureCall.outcome).length ∧
      ((aggOf calls).map CustomerAgg.recovered).getD 0 =
        (calls.filterMap FeatureCall.outcome).count true := by
  induction calls using List.reverseRecOn with
  | nil => exact ⟨rfl, rfl⟩
  | append_singleton calls call ih =>
    rw [aggOf_concat, List.filterMap_append]
    cases call with
    | observe merchantId customerId now createdAt =>
      have hnone : [FeatureCall.observe merchantId customerId now createdAt].filterMap
          FeatureCall.outcome = [] := rfl
      rw [hnone, List.append_nil, ← ih.1, ← ih.2]
      cases aggOf calls with
      | none => exact ⟨rfl, rfl⟩
      | some c => exact ⟨rfl, rfl⟩
    | recordOutcome merchantId customerId bin recovered now =>
      have hsome : [FeatureCall.recordOutcome merchantId customerId bin recovered now].filterMap
          FeatureCall.outcome = [recovered] := rfl
      rw [hsome, List.length_append, count_concat, ← ih.1, ← ih.2]
      cases aggOf calls with
      | none => exact ⟨rfl, rfl⟩
      | some c => exact ⟨rfl, rfl⟩

/-- A call changes its own issuer. -/
theorem apply_issuers_get (st : FeatureStore) (ik : String) :
    (call.apply cfg st).issuers.get ik =
      match call.issuerOutcome cfg ik with
      | none => st.issuers.get ik
      | some recovered =>
        let a := (st.issuers.get ik).getD ⟨0, 0⟩
        some ⟨a.total + 1, a.recovered + if recovered then 1 else 0⟩ := by
  cases call with
  | observe => rfl
  | recordOutcome merchantId customerId bin recovered now =>
    rw [FeatureCall.apply, recordOutcome, FeatureCall.issuerOutcome]
    cases hkey : issuerKeyFor cfg bin with
    | none => rfl
    | some k =>
      dsimp only
      rw [Map.get_set]
      by_cases hk : ik = k
      · subst hk
        rw [if_pos rfl, if_pos rfl]
      · have hne : ¬ some k = some ik := fun h => hk (Option.some.inj h).symm
        rw [if_neg hk, if_neg hne]

theorem issuer_counts (ik : String) :
    (((after cfg calls).issuers.get ik).map IssuerAgg.total).getD 0 =
        (calls.filterMap (FeatureCall.issuerOutcome cfg ik)).length ∧
      (((after cfg calls).issuers.get ik).map IssuerAgg.recovered).getD 0 =
        (calls.filterMap (FeatureCall.issuerOutcome cfg ik)).count true := by
  induction calls using List.reverseRecOn with
  | nil => exact ⟨rfl, rfl⟩
  | append_singleton calls call ih =>
    rw [after_concat, apply_issuers_get, List.filterMap_append]
    cases houtcome : call.issuerOutcome cfg ik with
    | none =>
      have hnone : [call].filterMap (FeatureCall.issuerOutcome cfg ik) = [] := by
        simp [houtcome]
      rw [hnone, List.append_nil]
      exact ih
    | some recovered =>
      have hsome : [call].filterMap (FeatureCall.issuerOutcome cfg ik) = [recovered] := by
        simp [houtcome]
      rw [hsome, List.length_append, count_concat, ← ih.1, ← ih.2]
      cases (after cfg calls).issuers.get ik with
      | none => exact ⟨rfl, rfl⟩
      | some a => exact ⟨rfl, rfl⟩

end FeatureStore

/-! ## Rates -/

/-- A prior with pseudo-counts, of which some are positive. -/
structure BetaPrior.Proper (prior : BetaPrior) : Prop where
  alpha : 0 ≤ prior.alpha
  beta : 0 ≤ prior.beta
  strength : 0 < prior.alpha + prior.beta

/-- The mean of a prior. -/
def BetaPrior.mean (prior : BetaPrior) : ℚ := prior.alpha / (prior.alpha + prior.beta)

/-- The number of pseudo-observations of a prior. -/
def BetaPrior.strength (prior : BetaPrior) : ℚ := prior.alpha + prior.beta

/-- The part of outcomes that were recoveries. -/
def empirical (outcomes : List Bool) : ℚ := outcomes.count true / outcomes.length

/-- A rate is that of outcomes, shrunk toward a prior. -/
structure Shrunk (prior : BetaPrior) (outcomes : List Bool) (rate : ℚ) : Prop where
  /-- what the outcomes count grows with their number -/
  average : rate * (outcomes.length + prior.strength) =
    outcomes.count true + prior.strength * prior.mean
  /-- a rate is a probability -/
  probability : 0 ≤ rate ∧ rate ≤ 1
  /-- without outcomes, it is the prior's -/
  cold : outcomes = [] → rate = prior.mean
  /-- with them, it is between the prior's and theirs -/
  between : outcomes ≠ [] → min prior.mean (empirical outcomes) ≤ rate ∧
    rate ≤ max prior.mean (empirical outcomes)
  /-- and the nearer to theirs the more there are -/
  near : outcomes ≠ [] →
    |rate - empirical outcomes| ≤ prior.strength / (outcomes.length + prior.strength)

namespace BetaPrior.Proper

variable {prior : BetaPrior} (h : prior.Proper)

include h

theorem mean_mem : 0 ≤ prior.mean ∧ prior.mean ≤ 1 := by
  have hbeta := h.beta
  constructor
  · exact div_nonneg h.alpha h.strength.le
  · rw [BetaPrior.mean, div_le_one h.strength]
    linarith

theorem strength_mul_mean : prior.strength * prior.mean = prior.alpha :=
  mul_div_cancel₀ _ h.strength.ne'

theorem shrunk (outcomes : List Bool) :
    Shrunk prior outcomes (shrinkRate (outcomes.count true) outcomes.length prior) := by
  obtain ⟨hmean₀, hmean₁⟩ := h.mean_mem
  have hstrength : 0 < prior.strength := h.strength
  have hcount : (outcomes.count true : ℚ) ≤ outcomes.length :=
    Nat.cast_le.2 List.count_le_length
  have hcount₀ : (0 : ℚ) ≤ outcomes.count true := Nat.cast_nonneg _
  have hlength : (0 : ℚ) ≤ outcomes.length := Nat.cast_nonneg _
  have htotal : 0 < outcomes.length + prior.strength := by linarith
  have hrate : shrinkRate (outcomes.count true) outcomes.length prior =
      (outcomes.count true + prior.strength * prior.mean) / (outcomes.length + prior.strength) := by
    rw [shrinkRate, h.strength_mul_mean, BetaPrior.strength, add_assoc]
  rw [hrate]
  have hproduct₀ : 0 ≤ prior.strength * prior.mean := mul_nonneg hstrength.le hmean₀
  have hproduct₁ : prior.strength * prior.mean ≤ prior.strength := by
    nlinarith
  -- with outcomes, the rate is an average of the prior's and theirs
  have haverage (hne : outcomes ≠ []) :
      (outcomes.count true + prior.strength * prior.mean) / (outcomes.length + prior.strength) -
        empirical outcomes = prior.strength / (outcomes.length + prior.strength) *
          (prior.mean - empirical outcomes) := by
    have hlength' : (outcomes.length : ℚ) ≠ 0 :=
      Nat.cast_ne_zero.2 (List.length_pos_iff.2 hne).ne'
    have htotal' := htotal.ne'
    rw [empirical]
    field_simp
    ring
  have hpart₀ : 0 ≤ prior.strength / (outcomes.length + prior.strength) :=
    div_nonneg hstrength.le htotal.le
  have hpart₁ : prior.strength / (outcomes.length + prior.strength) ≤ 1 :=
    (div_le_one htotal).2 (by linarith)
  have hempirical : 0 ≤ empirical outcomes ∧ empirical outcomes ≤ 1 :=
    ⟨div_nonneg hcount₀ hlength, div_le_one_of_le₀ hcount hlength⟩
  refine ⟨div_mul_cancel₀ _ htotal.ne', ⟨?_, ?_⟩, ?_, ?_, ?_⟩
  · exact div_nonneg (by linarith) htotal.le
  · rw [div_le_one htotal]
    linarith
  · rintro rfl
    simp only [List.count_nil, List.length_nil, Nat.cast_zero, zero_add]
    exact mul_div_cancel_left₀ _ hstrength.ne'
  · intro hne
    have hdiff := haverage hne
    rcases le_total prior.mean (empirical outcomes) with hle | hle
    · rw [min_eq_left hle, max_eq_right hle]
      constructor <;> nlinarith
    · rw [min_eq_right hle, max_eq_left hle]
      constructor <;> nlinarith
  · intro hne
    rw [haverage hne, abs_mul, abs_of_nonneg hpart₀]
    refine mul_le_of_le_one_right hpart₀ (abs_le.2 ⟨?_, ?_⟩)
    · linarith [hempirical.2]
    · linarith [hempirical.1]

end BetaPrior.Proper

namespace FeatureStore

variable {cfg : FeatureStoreConfig} {calls calls' : List FeatureCall}

theorem enrich_priorRecoveryRate (ctx : EnrichmentContext) :
    ((after cfg calls).enrich cfg ctx).priorRecoveryRate =
      shrinkRate ((customerOutcomes ctx calls).count true) (customerOutcomes ctx calls).length
        cfg.customerPrior := by
  obtain ⟨htotal, hrecovered⟩ :=
    aggOf_counts (about (customerKey ctx.merchantId ctx.customerId) calls)
  rw [enrich, after_customers_get, htotal, hrecovered]
  rfl

theorem enrich_issuerApprovalPrior (ctx : EnrichmentContext) :
    ((after cfg calls).enrich cfg ctx).issuerApprovalPrior =
      shrinkRate ((issuerOutcomes cfg ctx calls).count true)
        (issuerOutcomes cfg ctx calls).length cfg.issuerPrior := by
  rw [enrich, issuerOutcomes]
  cases issuerKeyFor cfg ctx.bin with
  | none => rfl
  | some ik =>
    obtain ⟨htotal, hrecovered⟩ := @issuer_counts cfg calls ik
    dsimp only [Option.bind_some]
    rw [htotal, hrecovered]

theorem customerOutcomes_perm (h : calls.Perm calls') (ctx : EnrichmentContext) :
    (customerOutcomes ctx calls).Perm (customerOutcomes ctx calls') :=
  (h.filter _).filterMap _

theorem issuerOutcomes_perm (h : calls.Perm calls') (ctx : EnrichmentContext) :
    (issuerOutcomes cfg ctx calls).Perm (issuerOutcomes cfg ctx calls') := by
  unfold issuerOutcomes
  cases issuerKeyFor cfg ctx.bin with
  | none => exact .refl _
  | some ik => exact h.filterMap _

/-- The rates of a failure are those of the outcomes of its customer and its issuer, shrunk toward
their priors, whatever the order in which the store was told of them. -/
theorem rates_run (hcustomer : cfg.customerPrior.Proper) (hissuer : cfg.issuerPrior.Proper)
    (h : calls.Perm calls') (ctx : EnrichmentContext) :
    Shrunk cfg.customerPrior (customerOutcomes ctx calls)
        ((after cfg calls).enrich cfg ctx).priorRecoveryRate ∧
      Shrunk cfg.issuerPrior (issuerOutcomes cfg ctx calls)
        ((after cfg calls).enrich cfg ctx).issuerApprovalPrior ∧
      ((after cfg calls').enrich cfg ctx).priorRecoveryRate =
        ((after cfg calls).enrich cfg ctx).priorRecoveryRate ∧
      ((after cfg calls').enrich cfg ctx).issuerApprovalPrior =
        ((after cfg calls).enrich cfg ctx).issuerApprovalPrior := by
  simp only [enrich_priorRecoveryRate, enrich_issuerApprovalPrior]
  have hcustomers := customerOutcomes_perm h ctx
  have hissuers := @issuerOutcomes_perm cfg calls calls' h ctx
  refine ⟨hcustomer.shrunk _, hissuer.shrunk _, ?_, ?_⟩
  · rw [hcustomers.count_eq, hcustomers.length_eq]
  · rw [hissuers.count_eq, hissuers.length_eq]

end FeatureStore

/-- The configuration of a deployment without a table of its own. -/
def sampleConfig : FeatureStoreConfig := featureStoreConfig defaultBinRegionIndex

/-- A failure of a customer with two outcomes, one of them on the same card. -/
def sampleContext : EnrichmentContext where
  merchantId := "m1"
  customerId := "c1"
  bin := some "41472012"
  customerCreatedAt := none
  firstFailedAt := none
  declineCode := .insufficientFunds
  amountMinor := 5000
  currency := "USD"
  attemptNumber := 1
  now := "2026-03-01T00:00:00.000Z"

def sampleCalls : List FeatureCall :=
  [.observe "m1" "c1" "2026-02-01T00:00:00.000Z" none,
    .recordOutcome "m1" "c1" (some "41472012") true "2026-02-03T00:00:00.000Z",
    .observe "m1" "c1" "2026-01-30T00:00:00.000Z" none,
    .recordOutcome "m1" "c2" (some "41472099") false "2026-02-04T00:00:00.000Z"]

theorem FeatureStore.rates_run_sample :
    Shrunk (betaFromMeanStrength (7 / 20) 8)
        (FeatureStore.customerOutcomes sampleContext sampleCalls)
        ((FeatureStore.after sampleConfig sampleCalls).enrich sampleConfig
          sampleContext).priorRecoveryRate ∧
      FeatureStore.customerOutcomes sampleContext sampleCalls = [true] ∧
      ((FeatureStore.after sampleConfig sampleCalls.reverse).enrich sampleConfig
        sampleContext).priorRecoveryRate =
      ((FeatureStore.after sampleConfig sampleCalls).enrich sampleConfig
        sampleContext).priorRecoveryRate := by
  have hcustomer : sampleConfig.customerPrior.Proper := by
    constructor <;>
      norm_num [sampleConfig, featureStoreConfig, defaultFeatureStoreConfig, betaFromMeanStrength]
  have hissuer : sampleConfig.issuerPrior.Proper := by
    constructor <;>
      norm_num [sampleConfig, featureStoreConfig, defaultFeatureStoreConfig, betaFromMeanStrength]
  obtain ⟨hshrunk, -, hperm, -⟩ := FeatureStore.rates_run hcustomer hissuer
    (List.reverse_perm sampleCalls).symm sampleContext
  exact ⟨hshrunk, rfl, hperm⟩

/-! ## Tenure -/

/-- The times at which a customer may have been seen first: that of the first call about it, and
those of its later contacts. -/
def contactTimes (t₀ : ℤ) (rest : List FeatureCall) : Set ℤ :=
  insert t₀ {t | ∃ call ∈ rest, call.contact = some t}

theorem contactTimes_concat (t₀ : ℤ) (rest : List FeatureCall) (call : FeatureCall) :
    contactTimes t₀ (rest ++ [call]) = contactTimes t₀ rest ∪ {t | call.contact = some t} := by
  ext t
  simp only [contactTimes, List.mem_append, List.mem_singleton, Set.mem_insert_iff,
    Set.mem_ofPred_eq, Set.mem_union]
  constructor
  · rintro (h | ⟨call', hmem | rfl, h⟩)
    · exact Or.inl (Or.inl h)
    · exact Or.inl (Or.inr ⟨call', hmem, h⟩)
    · exact Or.inr h
  · rintro ((h | ⟨call', hmem, h⟩) | h)
    · exact Or.inl h
    · exact Or.inr ⟨call', Or.inl hmem, h⟩
    · exact Or.inr ⟨call, Or.inr rfl, h⟩

namespace FeatureStore

variable {first : FeatureCall} {rest : List FeatureCall} {now t t₀ : ℤ}

theorem aggOf_cons_isSome (first : FeatureCall) (rest : List FeatureCall) :
    ∃ c, aggOf (first :: rest) = some c := by
  induction rest using List.reverseRecOn with
  | nil => exact ⟨_, rfl⟩
  | append_singleton rest call _ => exact ⟨_, by rw [← List.cons_append, aggOf_concat]⟩

theorem truthy_or (s : Option String) : (truthy s).or s = s := by
  cases htruthy : truthy s with
  | none => rfl
  | some t => rw [(Option.filter_eq_some_iff.1 htruthy).1, Option.some_or]

theorem truthy_truthy {s : Option String} {t : String} (h : truthy s = some t) :
    truthy (some t) = some t := by
  obtain rfl : s = some t := (Option.filter_eq_some_iff.1 h).1
  exact h

/-- The first signup date that is not empty is kept; without one, what the first call gave. -/
theorem aggOf_createdAt {c : CustomerAgg} (h : aggOf (first :: rest) = some c) :
    c.createdAt = ((first :: rest).findSome? FeatureCall.signup).or first.createdAt := by
  induction rest using List.reverseRecOn generalizing c with
  | nil =>
    obtain rfl : first.agg none = c := Option.some.inj h
    have hfirst : (first.agg none).createdAt = first.createdAt := by
      cases first with
      | observe => rfl
      | recordOutcome => rfl
    rw [hfirst, List.findSome?_singleton, FeatureCall.signup, truthy_or]
  | append_singleton rest call ih =>
    obtain ⟨c', hc'⟩ := aggOf_cons_isSome first rest
    have ih := ih hc'
    rw [← List.cons_append, aggOf_concat, hc'] at h
    obtain rfl : call.agg (some c') = c := Option.some.inj h
    rw [← List.cons_append, List.findSome?_append, List.findSome?_singleton]
    cases hfound : (first :: rest).findSome? FeatureCall.signup with
    | some date =>
      obtain ⟨call', -, hdate⟩ := List.exists_of_findSome?_eq_some hfound
      rw [hfound, Option.some_or] at ih
      cases call with
      | recordOutcome merchantId customerId bin recovered now => exact ih
      | observe merchantId customerId now createdAt =>
        simp [FeatureCall.agg, seen, ih, truthy_truthy hdate]
    | none =>
      have hfirst : truthy first.createdAt = none :=
        List.findSome?_eq_none_iff.1 hfound first List.mem_cons_self
      rw [hfound, Option.none_or] at ih
      cases call with
      | recordOutcome merchantId customerId bin recovered now => exact ih
      | observe merchantId customerId now createdAt =>
        simp only [FeatureCall.agg, seen, ih, hfirst, Option.isNone_none, if_true]
        rfl

/-- The earliest contact is kept, if the first instant can be read; else the first. -/
theorem aggOf_firstSeen {c : CustomerAgg} (h : aggOf (first :: rest) = some c) :
    match Date.parse first.now with
    | none => Date.parse c.firstSeen = none
    | some t₀ => ∃ t, Date.parse c.firstSeen = some t ∧ IsLeast (contactTimes t₀ rest) t := by
  induction rest using List.reverseRecOn generalizing c with
  | nil =>
    obtain rfl : first.agg none = c := Option.some.inj h
    have hfirst : (first.agg none).firstSeen = first.now := by
      cases first with
      | observe => rfl
      | recordOutcome => rfl
    rw [hfirst]
    cases hparse : Date.parse first.now with
    | none => rfl
    | some t₀ => exact ⟨t₀, rfl, by simp [contactTimes, IsLeast, lowerBounds]⟩
  | append_singleton rest call ih =>
    obtain ⟨c', hc'⟩ := aggOf_cons_isSome first rest
    have ih := ih hc'
    rw [← List.cons_append, aggOf_concat, hc'] at h
    obtain rfl : call.agg (some c') = c := Option.some.inj h
    cases hparse : Date.parse first.now with
    | none =>
      rw [hparse] at ih
      dsimp only at ih ⊢
      cases call with
      | recordOutcome merchantId customerId bin recovered now => exact ih
      | observe merchantId customerId now createdAt =>
        simp only [FeatureCall.agg, seen, ih]
        cases Date.parse now with
        | none => exact ih
        | some _ => exact ih
    | some t₀ =>
      rw [hparse] at ih
      obtain ⟨t, ht, hleast⟩ := ih
      dsimp only
      rw [contactTimes_concat]
      cases call with
      | recordOutcome merchantId customerId bin recovered now =>
        refine ⟨t, ht, ?_⟩
        simpa [FeatureCall.contact] using hleast
      | observe merchantId customerId now createdAt =>
        simp only [FeatureCall.agg, seen, FeatureCall.contact, ht]
        cases hnow : Date.parse now with
        | none =>
          refine ⟨t, ht, ?_⟩
          simpa using hleast
        | some u =>
          have hunion : contactTimes t₀ rest ∪ {t | some u = some t} = insert u
              (contactTimes t₀ rest) := by
            ext t
            simp [eq_comm]
          have hinsert := hleast.insert u
          dsimp only
          rw [hunion]
          by_cases hlt : u < t
          · refine ⟨u, by simp [hlt, hnow], ?_⟩
            rwa [min_eq_left hlt.le] at hinsert
          · refine ⟨t, by simp [hlt, ht], ?_⟩
            rwa [min_eq_right (not_lt.1 hlt)] at hinsert

/-- An empty instant cannot be read. -/
theorem truthy_bind_parse (s : String) : (truthy (some s)).bind Date.parse = Date.parse s := by
  by_cases hs : s = ""
  · subst hs
    rfl
  · have htruthy : truthy (some s) = some s := by simp [truthy, hs]
    rw [htruthy, Option.bind_some]

theorem daysBetween_firstSeen {s toIso : String} (h : Date.parse s = some t)
    (hnow : Date.parse toIso = some now) :
    daysBetween (truthy (some s)) toIso = max 0 ((now - t : ℤ) : ℚ) / Date.msPerDay := by
  rw [daysBetween, truthy_bind_parse, h, hnow]
  dsimp only
  by_cases hlater : now - t > 0
  · rw [if_pos hlater, max_eq_right (Int.cast_nonneg hlater.le)]
  · have hle : ((now - t : ℤ) : ℚ) ≤ 0 := Int.cast_nonpos.2 (not_lt.1 hlater)
    rw [if_neg hlater, max_eq_left hle, zero_div]

theorem daysBetween_none {s toIso : String} (h : Date.parse s = none) :
    daysBetween (truthy (some s)) toIso = 0 := by
  rw [daysBetween, truthy_bind_parse, h]

/-- Without a signup date of its own, a failure's tenure counts from the first that was given for
its customer, else from the customer's earliest contact.  It is `0` from then on where the first
call about a customer gave an empty date, or where its instant cannot be read. -/
theorem tenure_run (cfg : FeatureStoreConfig) (calls : List FeatureCall) (ctx : EnrichmentContext)
    (h : ctx.customerCreatedAt = none) :
    match about (customerKey ctx.merchantId ctx.customerId) calls with
    | [] => ((after cfg calls).enrich cfg ctx).customerTenureDays = 0
    | first :: rest =>
      match (first :: rest).findSome? FeatureCall.signup, first.createdAt,
        Date.parse first.now with
      | some createdAt, _, _ => ((after cfg calls).enrich cfg ctx).customerTenureDays =
          daysBetween (some createdAt) ctx.now
      | none, some _, _ => ((after cfg calls).enrich cfg ctx).customerTenureDays = 0
      | none, none, none => ((after cfg calls).enrich cfg ctx).customerTenureDays = 0
      | none, none, some t₀ => ∃ t, IsLeast (contactTimes t₀ rest) t ∧
          ∀ now, Date.parse ctx.now = some now →
            ((after cfg calls).enrich cfg ctx).customerTenureDays =
              max 0 ((now - t : ℤ) : ℚ) / Date.msPerDay := by
  have htenure : ((after cfg calls).enrich cfg ctx).customerTenureDays =
      daysBetween (truthy ((((aggOf (about (customerKey ctx.merchantId ctx.customerId) calls)).bind
        CustomerAgg.createdAt).or (((aggOf (about (customerKey ctx.merchantId ctx.customerId)
          calls)).map CustomerAgg.firstSeen).or (some ctx.now))))) ctx.now := by
    rw [enrich, after_customers_get, h]
    rfl
  rw [htenure]
  cases about (customerKey ctx.merchantId ctx.customerId) calls with
  | nil =>
    dsimp only
    cases hnow : Date.parse ctx.now with
    | none => exact daysBetween_none hnow
    | some now =>
      have hdays := daysBetween_firstSeen hnow hnow
      rw [sub_self, Int.cast_zero, max_self, zero_div] at hdays
      exact hdays
  | cons first rest =>
    obtain ⟨c, hc⟩ := aggOf_cons_isSome first rest
    have hseen := aggOf_firstSeen hc
    rw [hc, Option.bind_some, aggOf_createdAt hc, Option.map_some, Option.some_or]
    dsimp only
    cases hfound : (first :: rest).findSome? FeatureCall.signup with
    | some createdAt =>
      obtain ⟨call, -, hdate⟩ := List.exists_of_findSome?_eq_some hfound
      dsimp only
      rw [Option.some_or, Option.some_or, truthy_truthy hdate]
    | none =>
      have hfirst : truthy first.createdAt = none :=
        List.findSome?_eq_none_iff.1 hfound first List.mem_cons_self
      rw [Option.none_or]
      cases hcreated : first.createdAt with
      | some date =>
        rw [hcreated] at hfirst
        dsimp only
        rw [Option.some_or, hfirst]
        rfl
      | none =>
        rw [Option.none_or]
        cases hparse : Date.parse first.now with
        | none =>
          rw [hparse] at hseen
          exact daysBetween_none hseen
        | some t₀ =>
          rw [hparse] at hseen
          obtain ⟨t, ht, hleast⟩ := hseen
          refine ⟨t, hleast, ?_⟩
          intro now hnow
          exact daysBetween_firstSeen ht hnow

theorem tenure_run_sample :
    ((after sampleConfig sampleCalls).enrich sampleConfig sampleContext).customerTenureDays = 30 := by
  have hfirst : Date.parse "2026-02-01T00:00:00.000Z" = some 1769904000000 := by decide +kernel
  have hsecond : Date.parse "2026-01-30T00:00:00.000Z" = some 1769731200000 := by decide +kernel
  have hnow : Date.parse sampleContext.now = some 1772323200000 := by decide +kernel
  have hown : about (customerKey sampleContext.merchantId sampleContext.customerId) sampleCalls =
      [.observe "m1" "c1" "2026-02-01T00:00:00.000Z" none,
        .recordOutcome "m1" "c1" (some "41472012") true "2026-02-03T00:00:00.000Z",
        .observe "m1" "c1" "2026-01-30T00:00:00.000Z" none] := rfl
  have htenure := tenure_run sampleConfig sampleCalls sampleContext rfl
  rw [hown] at htenure
  dsimp only [List.findSome?, FeatureCall.signup, FeatureCall.createdAt, FeatureCall.now,
    truthy, Option.filter] at htenure
  rw [hfirst] at htenure
  obtain ⟨t, hleast, htenure⟩ := htenure
  have ht : t = 1769731200000 := by
    refine hleast.unique ⟨Or.inr ⟨_, List.mem_cons_of_mem _ (List.mem_singleton.2 rfl),
      hsecond⟩, ?_⟩
    rintro u (rfl | ⟨call, hcall, hu⟩)
    · norm_num
    · simp only [List.mem_cons, List.not_mem_nil, or_false] at hcall
      rcases hcall with rfl | rfl
      · cases hu
      · rw [FeatureCall.contact, hsecond] at hu
        exact (Option.some.inj hu).le
  rw [htenure _ hnow, ht]
  norm_num [Date.msPerDay]

/-! ## Runs with a table -/

/-- In a table of distinct prefixes a BIN is that of the longest that its digits start with, and
whatever the order of the table, a run leaves the same features. -/
theorem binTable_run {ranges ranges' : List BinRange} (h : (ranges.map BinRange.digits).Nodup)
    (hperm : ranges.Perm ranges') :
    (∀ r ∈ ranges, ∀ bin, bin ≠ "" → r.digits.toList <+: BinRegionIndex.digitsOf bin →
      (∀ r' ∈ ranges, r'.digits.toList <+: BinRegionIndex.digitsOf bin →
        r'.digits.length ≤ r.digits.length) →
      BinRegionIndex.lookup ranges (some bin) = r.toBinInfo) ∧
    (∀ bin, (∀ r ∈ ranges, ¬ r.digits.toList <+: BinRegionIndex.digitsOf bin) →
      BinRegionIndex.lookup ranges (some bin) = BinRegionIndex.unknownBin) ∧
    ∀ calls ctx, (after (featureStoreConfig ranges') calls).enrich (featureStoreConfig ranges') ctx =
      (after (featureStoreConfig ranges) calls).enrich (featureStoreConfig ranges) ctx := by
  refine ⟨?_, ?_, ?_⟩
  · intro r hr bin hbin hstart hlongest
    have hfound : Prefixes.lookup (BinRegionIndex.table ranges) (BinRegionIndex.digitsOf bin) =
        some (r.digits.toList, r.toBinInfo) := by
      refine Prefixes.lookup_eq_some_iff.2 ⟨hstart, ?_, ?_⟩
      · intro e he hmatch
        obtain ⟨r', hr', rfl⟩ := List.mem_map.1 he
        exact hlongest r' hr' hmatch
      · refine (Prefixes.find?_eq_some_iff_mem (BinRegionIndex.table_nodup h)).2 ?_
        exact List.mem_map_of_mem hr
    have htruthy : truthy (some bin) = some bin := by simp [truthy, hbin]
    rw [BinRegionIndex.lookup, htruthy]
    dsimp only
    rw [hfound]
    rfl
  · intro bin hnone
    rw [BinRegionIndex.lookup]
    cases htruthy : truthy (some bin) with
    | none => rfl
    | some bin' =>
      obtain rfl : bin = bin' := Option.some.inj (Option.filter_eq_some_iff.1 htruthy).1
      have hmissed : Prefixes.lookup (BinRegionIndex.table ranges) (BinRegionIndex.digitsOf bin) =
          none := by
        refine Prefixes.lookup_eq_none_iff.2 ?_
        intro e he
        obtain ⟨r, hr, rfl⟩ := List.mem_map.1 he
        exact hnone r hr
      dsimp only
      rw [hmissed]
      rfl
  · intro calls ctx
    have hcfg : featureStoreConfig ranges' = featureStoreConfig ranges := by
      rw [featureStoreConfig, featureStoreConfig, BinRegionIndex.lookup_perm h hperm]
    rw [hcfg]

theorem binTable_run_default :
    (BinRegionIndex.lookup defaultBinRegionIndex (some "4147 2012")).issuerId =
        some "example_bank_na" ∧
      BinRegionIndex.lookup defaultBinRegionIndex (some "6011") = BinRegionIndex.unknownBin ∧
      (after (featureStoreConfig defaultBinRegionIndex.reverse) sampleCalls).enrich
          (featureStoreConfig defaultBinRegionIndex.reverse) sampleContext =
        (after sampleConfig sampleCalls).enrich sampleConfig sampleContext := by
  have hdistinct : (defaultBinRegionIndex.map BinRange.digits).Nodup := by decide
  obtain ⟨hlongest, hnone, hrun⟩ :=
    binTable_run hdistinct (List.reverse_perm defaultBinRegionIndex).symm
  refine ⟨?_, hnone "6011" (by decide), hrun sampleCalls sampleContext⟩
  have hbank := hlongest ⟨⟨.na, some "example_bank_na", some .credit⟩, "414720"⟩
    (by simp [defaultBinRegionIndex]) "4147 2012" (by decide) (by decide) (by decide)
  rw [hbank]

end FeatureStore

end AX10M
