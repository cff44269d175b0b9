/-
  The tie-out against the payout report, by the keys that are claimed.

  `reconcileAgainstPayout_eq`: the lines are the claimed keys, each with what is claimed and what is
  paid under it; the counts are those of the keys that are paid as claimed, otherwise, and not at
  all, and the totals are sums over the keys.  Hence `payout_ties_out`: the books tie out if and only
  if each key is paid as it is claimed.
-/
import AX10M.Attribution.Reconciliation
import AX10M.Attribution.Strata
import Mathlib.Algebra.Order.Ring.Rat

namespace AX10M

open Js Logs

section

variable {K : Type} [Field K] [LinearOrder K]

/-- The keys that are claimed. -/
def claimedKeys (recovered : List (SettledOutcome K)) : Finset String :=
  ((claimedOf recovered).map SettledOutcome.payoutKey).toFinset

/-- What is claimed under a key. -/
def claimedTotal (recovered : List (SettledOutcome K)) (key : String) : K :=
  ((itemsOf SettledOutcome.payoutKey key (claimedOf recovered)).map
    SettledOutcome.recoveredAmount).sum

/-- The invoices that are claimed under a key. -/
def claimedIds (recovered : List (SettledOutcome K)) (key : String) : List String :=
  (itemsOf SettledOutcome.payoutKey key (claimedOf recovered)).map SettledOutcome.invoiceId

end

section

variable {K : Type} [Field K]

/-- The keys of the payout report. -/
def payoutKeys (payout : List (PayoutRow K)) : Finset String := (payout.map PayoutRow.key).toFinset

/-- What is paid under a key. -/
def payoutTotal (payout : List (PayoutRow K)) (key : String) : K :=
  ((itemsOf PayoutRow.key key payout).map PayoutRow.settledAmount).sum

/-! ## The maps -/

theorem payoutByKey_get (payout : List (PayoutRow K)) (key : String) :
    (payoutByKey payout).get key =
      if key ∈ payoutKeys payout then some (payoutTotal payout key) else none := by
  have hgroup : payoutByKey payout =
      groupBy PayoutRow.key (fun s p => s + p.settledAmount) 0 payout := rfl
  have hmem : key ∈ payoutKeys payout ↔ itemsOf PayoutRow.key key payout ≠ [] := by
    simp [payoutKeys, itemsOf_eq_nil]
  rw [hgroup, get_groupBy, foldl_add_zero]
  by_cases hkey : itemsOf PayoutRow.key key payout = []
  · rw [if_pos hkey, if_neg fun h => hmem.1 h hkey]
  · rw [if_neg hkey, if_pos (hmem.2 hkey)]
    rfl

theorem payoutTotal_of_not_mem {payout : List (PayoutRow K)} {key : String}
    (h : key ∉ payoutKeys payout) : payoutTotal payout key = 0 := by
  have hnil : itemsOf PayoutRow.key key payout = [] := by
    refine itemsOf_eq_nil.2 fun p hp hkey => h ?_
    exact List.mem_toFinset.2 (List.mem_map.2 ⟨p, hp, hkey⟩)
  rw [payoutTotal, hnil]
  rfl

/-- What the claims of some outcomes add up to. -/
theorem foldl_claim (os : List (SettledOutcome K)) (agg : Claimed K) :
    os.foldl (fun agg o => ⟨agg.ours + o.recoveredAmount, agg.invoiceIds ++ [o.invoiceId]⟩) agg =
      ⟨agg.ours + (os.map SettledOutcome.recoveredAmount).sum,
        agg.invoiceIds ++ os.map SettledOutcome.invoiceId⟩ := by
  induction os generalizing agg with
  | nil => simp
  | cons o os ih =>
    rw [List.foldl_cons, ih, List.map_cons, List.sum_cons, List.map_cons, List.append_assoc,
      add_assoc]
    rfl

theorem oursByKey_eq (claimed : List (SettledOutcome K)) :
    oursByKey claimed = groupBy SettledOutcome.payoutKey
      (fun agg o => ⟨agg.ours + o.recoveredAmount, agg.invoiceIds ++ [o.invoiceId]⟩) ⟨0, []⟩
      claimed := rfl

variable [LinearOrder K]

/-- The claimed keys, in the order of the first claims. -/
theorem oursByKey_entries (recovered : List (SettledOutcome K)) :
    (oursByKey (claimedOf recovered)).entries =
      (oursByKey (claimedOf recovered)).keys.map fun key =>
        (key, ⟨claimedTotal recovered key, claimedIds recovered key⟩) := by
  rw [oursByKey_eq, entries_groupBy]
  refine List.map_congr_left fun key _ => ?_
  rw [foldl_claim, zero_add, List.nil_append]
  rfl

theorem oursByKey_keys (recovered : List (SettledOutcome K)) :
    (oursByKey (claimedOf recovered)).keys.toFinset = claimedKeys recovered := by
  ext key
  rw [List.mem_toFinset, oursByKey_eq, mem_keys_groupBy, claimedKeys, List.mem_toFinset,
    List.mem_map]

/-! ## The lines -/

/-- The line of a key. -/
def lineOf (tolerance : K) (recovered : List (SettledOutcome K)) (payout : List (PayoutRow K))
    (key : String) : ReconLine K where
  key
  invoiceId := ",".intercalate (claimedIds recovered key)
  ours := claimedTotal recovered key
  theirs := if key ∈ payoutKeys payout then some (payoutTotal payout key) else none
  delta := claimedTotal recovered key - payoutTotal payout key
  «match» := key ∈ payoutKeys payout ∧
    |claimedTotal recovered key - payoutTotal payout key| ≤ tolerance

theorem reconLine_eq (tolerance : K) (recovered : List (SettledOutcome K))
    (payout : List (PayoutRow K)) (key : String) :
    reconLine tolerance (payoutByKey payout)
      (key, ⟨claimedTotal recovered key, claimedIds recovered key⟩) =
      lineOf tolerance recovered payout key := by
  rw [reconLine, lineOf, payoutByKey_get]
  by_cases h : key ∈ payoutKeys payout
  · simp [h]
  · simp [h, payoutTotal_of_not_mem h]

/-- The lines are those of the claimed keys. -/
theorem lines_eq (tolerance : K) (recovered : List (SettledOutcome K))
    (payout : List (PayoutRow K)) :
    (reconcileAgainstPayout recovered payout tolerance).lines =
      (oursByKey (claimedOf recovered)).keys.map (lineOf tolerance recovered payout) := by
  show (oursByKey (claimedOf recovered)).entries.map
    (reconLine tolerance (payoutByKey payout)) = _
  rw [oursByKey_entries, List.map_map]
  exact List.map_congr_left fun key _ => reconLine_eq tolerance recovered payout key

theorem countP_lines (tolerance : K) (recovered : List (SettledOutcome K))
    (payout : List (PayoutRow K)) (p : ReconLine K → Bool) :
    (reconcileAgainstPayout recovered payout tolerance).lines.countP p =
      ((claimedKeys recovered).filter fun key =>
        p (lineOf tolerance recovered payout key) = true).card := by
  rw [lines_eq, List.countP_map, ← oursByKey_keys, List.countP_eq_length_filter,
    ← List.toFinset_card_of_nodup ((Map.keys_nodup _).filter _), List.toFinset_filter]
  rfl

theorem sum_lines (tolerance : K) (recovered : List (SettledOutcome K))
    (payout : List (PayoutRow K)) (f : ReconLine K → K) :
    (reconcileAgainstPayout recovered payout tolerance).lines.foldl (fun t l => t + f l) 0 =
      ∑ key ∈ claimedKeys recovered, f (lineOf tolerance recovered payout key) := by
  rw [foldl_add_zero, lines_eq, List.map_map, ← oursByKey_keys,
    List.sum_toFinset _ (Map.keys_nodup _)]
  rfl

/-! ## The result -/

/-- A key is paid as it is claimed. -/
def PaidAsClaimed (tolerance : K) (recovered : List (SettledOutcome K))
    (payout : List (PayoutRow K)) (key : String) : Prop :=
  key ∈ payoutKeys payout ∧ |claimedTotal recovered key - payoutTotal payout key| ≤ tolerance

instance (tolerance : K) (recovered : List (SettledOutcome K)) (payout : List (PayoutRow K))
    (key : String) : Decidable (PaidAsClaimed tolerance recovered payout key) :=
  inferInstanceAs (Decidable (_ ∧ _))

/-- A result says of each claimed key what the two books have. -/
structure Reconciled (tolerance : K) (recovered : List (SettledOutcome K))
    (payout : List (PayoutRow K)) (res : ReconResult K) : Prop where
  nodup : (res.lines.map ReconLine.key).Nodup
  keys : (res.lines.map ReconLine.key).toFinset = claimedKeys recovered
  lines : ∀ l ∈ res.lines, l = lineOf tolerance recovered payout l.key
  matched : res.matched =
    ((claimedKeys recovered).filter fun key => PaidAsClaimed tolerance recovered payout key).card
  mismatched : res.mismatched = ((claimedKeys recovered).filter fun key =>
    key ∈ payoutKeys payout ∧ ¬ PaidAsClaimed tolerance recovered payout key).card
  missing : res.missingInPayout =
    ((claimedKeys recovered).filter fun key => key ∉ payoutKeys payout).card
  partition : res.matched + res.mismatched + res.missingInPayout = (claimedKeys recovered).card
  oursTotal : res.oursTotal = ∑ key ∈ claimedKeys recovered, claimedTotal recovered key
  theirsTotal : res.theirsTotal = ∑ key ∈ claimedKeys recovered, payoutTotal payout key
  extra : res.extraInPayout = (payoutKeys payout \ claimedKeys recovered).card

theorem isSome_theirs (tolerance : K) (recovered : List (SettledOutcome K))
    (payout : List (PayoutRow K)) (key : String) :
    (lineOf tolerance recovered payout key).theirs.isSome = decide (key ∈ payoutKeys payout) := by
  rw [lineOf]
  by_cases h : key ∈ payoutKeys payout <;> simp [h]

theorem getD_theirs (tolerance : K) (recovered : List (SettledOutcome K))
    (payout : List (PayoutRow K)) (key : String) :
    (lineOf tolerance recovered payout key).theirs.getD 0 = payoutTotal payout key := by
  rw [lineOf]
  by_cases h : key ∈ payoutKeys payout
  · simp [h]
  · simp [h, payoutTotal_of_not_mem h]

theorem matched_eq (tolerance : K) (recovered : List (SettledOutcome K))
    (payout : List (PayoutRow K)) :
    (reconcileAgainstPayout recovered payout tolerance).matched =
      ((claimedKeys recovered).filter fun key =>
        PaidAsClaimed tolerance recovered payout key).card := by
  refine (countP_lines tolerance recovered payout _).trans (congrArg Finset.card ?_)
  refine Finset.filter_congr fun key _ => ?_
  rw [isSome_theirs, Bool.and_eq_true, decide_eq_true_eq]
  show _ ∧ decide (PaidAsClaimed tolerance recovered payout key) = true ↔ _
  rw [decide_eq_true_eq]
  exact ⟨fun h => h.2, fun h => ⟨h.1, h⟩⟩

theorem mismatched_eq (tolerance : K) (recovered : List (SettledOutcome K))
    (payout : List (PayoutRow K)) :
    (reconcileAgainstPayout recovered payout tolerance).mismatched =
      ((claimedKeys recovered).filter fun key =>
        key ∈ payoutKeys payout ∧ ¬ PaidAsClaimed tolerance recovered payout key).card := by
  refine (countP_lines tolerance recovered payout _).trans (congrArg Finset.card ?_)
  refine Finset.filter_congr fun key _ => ?_
  rw [isSome_theirs, Bool.and_eq_true, decide_eq_true_eq, Bool.not_eq_true']
  show _ ∧ decide (PaidAsClaimed tolerance recovered payout key) = false ↔ _
  rw [decide_eq_false_iff_not]

theorem missing_eq (tolerance : K) (recovered : List (SettledOutcome K))
    (payout : List (PayoutRow K)) :
    (reconcileAgainstPayout recovered payout tolerance).missingInPayout =
      ((claimedKeys recovered).filter fun key => key ∉ payoutKeys payout).card := by
  refine (countP_lines tolerance recovered payout _).trans (congrArg Finset.card ?_)
  refine Finset.filter_congr fun key _ => ?_
  rw [← Option.not_isSome, isSome_theirs, Bool.not_eq_true', decide_eq_false_iff_not]

theorem extra_eq (tolerance : K) (recovered : List (SettledOutcome K))
    (payout : List (PayoutRow K)) :
    (reconcileAgainstPayout recovered payout tolerance).extraInPayout =
      (payoutKeys payout \ claimedKeys recovered).card := by
  have hkeys : (payoutByKey payout).keys.toFinset = payoutKeys payout := by
    ext key
    have hgroup : payoutByKey payout =
        groupBy PayoutRow.key (fun s p => s + p.settledAmount) 0 payout := rfl
    rw [List.mem_toFinset, hgroup, mem_keys_groupBy, payoutKeys, List.mem_toFinset, List.mem_map]
  have hhas : ∀ key, (oursByKey (claimedOf recovered)).has key =
      decide (key ∈ claimedKeys recovered) := by
    intro key
    rw [Bool.eq_iff_iff, decide_eq_true_eq, ← oursByKey_keys, List.mem_toFinset, Map.has,
      Option.isSome_iff_ne_none, Ne, Map.get_eq_none_iff, not_not]
  show ((payoutByKey payout).keys.filter _).length = _
  rw [← List.toFinset_card_of_nodup ((Map.keys_nodup _).filter _)]
  congr 1
  ext key
  rw [List.mem_toFinset, List.mem_filter, Finset.mem_sdiff, ← hkeys, List.mem_toFinset, hhas,
    Bool.not_eq_true', decide_eq_false_iff_not]

/-- The result, by the claimed keys. -/
theorem reconciled (tolerance : K) (recovered : List (SettledOutcome K))
    (payout : List (PayoutRow K)) :
    Reconciled tolerance recovered payout
      (reconcileAgainstPayout recovered payout tolerance) where
  nodup := by
    rw [lines_eq, List.map_map]
    exact (List.map_id _).symm ▸ Map.keys_nodup _
  keys := by
    rw [lines_eq, List.map_map, ← oursByKey_keys]
    exact congrArg List.toFinset (List.map_id _)
  lines l hl := by
    rw [lines_eq] at hl
    obtain ⟨key, -, rfl⟩ := List.mem_map.1 hl
    rfl
  matched := matched_eq tolerance recovered payout
  mismatched := mismatched_eq tolerance recovered payout
  missing := missing_eq tolerance recovered payout
  partition := by
    rw [matched_eq, mismatched_eq, missing_eq]
    have hpaid : (claimedKeys recovered).filter (PaidAsClaimed tolerance recovered payout) =
        ((claimedKeys recovered).filter fun key => key ∈ payoutKeys payout).filter
          (PaidAsClaimed tolerance recovered payout) := by
      rw [Finset.filter_filter]
      exact Finset.filter_congr fun key _ => ⟨fun h => ⟨h.1, h⟩, fun h => h.2⟩
    rw [hpaid, ← Finset.filter_filter, Finset.card_filter_add_card_filter_not,
      Finset.card_filter_add_card_filter_not]
  oursTotal := sum_lines tolerance recovered payout ReconLine.ours
  theirsTotal := (sum_lines tolerance recovered payout fun l => l.theirs.getD 0).trans
    (Finset.sum_congr rfl fun key _ => getD_theirs tolerance recovered payout key)
  extra := extra_eq tolerance recovered payout

/-! ## Another order of the books -/

/-- But for the order of the lines and of the ids that are joined in a line, the results are the
    same. -/
structure SameResult (res res' : ReconResult K) : Prop where
  rest : { res' with lines := [] } = { res with lines := [] }
  lines : (res'.lines.map fun l => { l with invoiceId := "" }).Perm
    (res.lines.map fun l => { l with invoiceId := "" })
  ids : ∀ l ∈ res.lines, ∀ l' ∈ res'.lines, l'.key = l.key → ∃ ids ids' : List String,
    ids'.Perm ids ∧ l.invoiceId = ",".intercalate ids ∧ l'.invoiceId = ",".intercalate ids'

section

variable {tolerance : K} {recovered recovered' : List (SettledOutcome K)}
  {payout payout' : List (PayoutRow K)}

theorem claimedKeys_perm (h : recovered'.Perm recovered) :
    claimedKeys recovered' = claimedKeys recovered :=
  List.toFinset_eq_of_perm _ _ ((h.filter _).map _)

theorem claimedTotal_perm (h : recovered'.Perm recovered) (key : String) :
    claimedTotal recovered' key = claimedTotal recovered key :=
  ((itemsOf_perm (h.filter _) key).map _).sum_eq

theorem claimedIds_perm (h : recovered'.Perm recovered) (key : String) :
    (claimedIds recovered' key).Perm (claimedIds recovered key) :=
  (itemsOf_perm (h.filter _) key).map _

omit [Field K] [LinearOrder K] in
theorem payoutKeys_perm (h : payout'.Perm payout) : payoutKeys payout' = payoutKeys payout :=
  List.toFinset_eq_of_perm _ _ (h.map _)

omit [LinearOrder K] in
theorem payoutTotal_perm (h : payout'.Perm payout) (key : String) :
    payoutTotal payout' key = payoutTotal payout key :=
  ((itemsOf_perm h key).map _).sum_eq

theorem lineOf_perm (h : recovered'.Perm recovered) (h' : payout'.Perm payout) (key : String) :
    { lineOf tolerance recovered' payout' key with invoiceId := "" } =
      { lineOf tolerance recovered payout key with invoiceId := "" } := by
  simp only [lineOf, claimedTotal_perm h, payoutKeys_perm h', payoutTotal_perm h']

theorem paidAsClaimed_perm (h : recovered'.Perm recovered) (h' : payout'.Perm payout)
    (key : String) : PaidAsClaimed tolerance recovered' payout' key ↔
      PaidAsClaimed tolerance recovered payout key := by
  rw [PaidAsClaimed, PaidAsClaimed, claimedTotal_perm h, payoutKeys_perm h', payoutTotal_perm h']

theorem tiesOut_eq : (reconcileAgainstPayout recovered payout tolerance).tiesOut =
    decide ((reconcileAgainstPayout recovered payout tolerance).mismatched = 0 ∧
      (reconcileAgainstPayout recovered payout tolerance).missingInPayout = 0 ∧
      |(reconcileAgainstPayout recovered payout tolerance).oursTotal -
        (reconcileAgainstPayout recovered payout tolerance).theirsTotal| ≤ tolerance) := rfl

/-- The result in another order of both books. -/
theorem sameResult (h : recovered'.Perm recovered) (h' : payout'.Perm payout) :
    SameResult (reconcileAgainstPayout recovered payout tolerance)
      (reconcileAgainstPayout recovered' payout' tolerance) := by
  have hres := reconciled tolerance recovered payout
  have hres' := reconciled tolerance recovered' payout'
  have hours : (reconcileAgainstPayout recovered' payout' tolerance).oursTotal =
      (reconcileAgainstPayout recovered payout tolerance).oursTotal := by
    rw [hres'.oursTotal, hres.oursTotal, claimedKeys_perm h]
    simp only [claimedTotal_perm h]
  have htheirs : (reconcileAgainstPayout recovered' payout' tolerance).theirsTotal =
      (reconcileAgainstPayout recovered payout tolerance).theirsTotal := by
    rw [hres'.theirsTotal, hres.theirsTotal, claimedKeys_perm h]
    simp only [payoutTotal_perm h']
  have hmatched : (reconcileAgainstPayout recovered' payout' tolerance).matched =
      (reconcileAgainstPayout recovered payout tolerance).matched := by
    rw [hres'.matched, hres.matched, claimedKeys_perm h]
    simp only [paidAsClaimed_perm h h']
  have hmismatched : (reconcileAgainstPayout recovered' payout' tolerance).mismatched =
      (reconcileAgainstPayout recovered payout tolerance).mismatched := by
    rw [hres'.mismatched, hres.mismatched, claimedKeys_perm h]
    simp only [paidAsClaimed_perm h h', payoutKeys_perm h']
  have hmissing : (reconcileAgainstPayout recovered' payout' tolerance).missingInPayout =
      (reconcileAgainstPayout recovered payout tolerance).missingInPayout := by
    rw [hres'.missing, hres.missing, claimedKeys_perm h]
    simp only [payoutKeys_perm h']
  have hextra : (reconcileAgainstPayout recovered' payout' tolerance).extraInPayout =
      (reconcileAgainstPayout recovered payout tolerance).extraInPayout := by
    rw [hres'.extra, hres.extra, claimedKeys_perm h, payoutKeys_perm h']
  refine ⟨?_, ?_, ?_⟩
  · simp only [tiesOut_eq, hours, htheirs, hmatched, hmismatched, hmissing, hextra]
  · rw [lines_eq, lines_eq, List.map_map, List.map_map]
    have hkeys : (oursByKey (claimedOf recovered')).keys.Perm
        (oursByKey (claimedOf recovered)).keys := by
      rw [oursByKey_eq, oursByKey_eq]
      exact keys_perm (h.filter _)
    refine (hkeys.map _).trans (List.Perm.of_eq (List.map_congr_left fun key _ => ?_))
    exact lineOf_perm h h' key
  · intro l hl l' hl' hkey
    refine ⟨claimedIds recovered l.key, claimedIds recovered' l'.key, ?_, ?_, ?_⟩
    · rw [hkey]
      exact claimedIds_perm h l.key
    · rw [hres.lines l hl]
      rfl
    · rw [hres'.lines l' hl']
      rfl

end

/-! ## The tie-out -/

/-- With no tolerance, the books tie out if and only if each claimed key is paid as it is claimed. -/
theorem tiesOut_iff [IsStrictOrderedRing K] (recovered : List (SettledOutcome K))
    (payout : List (PayoutRow K)) :
    (reconcileAgainstPayout recovered payout).tiesOut ↔ ∀ key ∈ claimedKeys recovered,
      key ∈ payoutKeys payout ∧ claimedTotal recovered key = payoutTotal payout key := by
  have hpaid : ∀ key, PaidAsClaimed 0 recovered payout key ↔
      key ∈ payoutKeys payout ∧ claimedTotal recovered key = payoutTotal payout key := by
    intro key
    rw [PaidAsClaimed, abs_nonpos_iff, sub_eq_zero]
  have hres := reconciled 0 recovered payout
  rw [tiesOut_eq, decide_eq_true_eq, hres.mismatched, hres.missing, hres.oursTotal,
    hres.theirsTotal, Finset.card_eq_zero, Finset.card_eq_zero, Finset.filter_eq_empty_iff,
    Finset.filter_eq_empty_iff]
  constructor
  · rintro ⟨hmismatched, hmissing, -⟩ key hkey
    have hin := not_not.1 (hmissing hkey)
    exact (hpaid key).1 (not_not.1 fun hnot => hmismatched hkey ⟨hin, hnot⟩)
  · intro hall
    refine ⟨fun key hkey hmis => hmis.2 ((hpaid key).2 (hall key hkey)),
      fun key hkey hmissing => hmissing (hall key hkey).1, ?_⟩
    rw [Finset.sum_congr rfl fun key hkey => (hall key hkey).2, sub_self, abs_zero]

/-- For all claims and all payouts: with no tolerance the books tie out if and only if each claimed
    key is in the payout report and has the same total there; for every tolerance the counts are a
    partition of the claimed keys and the totals are sums over them, whatever the order of either
    book. -/
theorem payout_ties_out [IsStrictOrderedRing K] (recovered : List (SettledOutcome K))
    (payout : List (PayoutRow K)) :
    ((reconcileAgainstPayout recovered payout).tiesOut ↔ ∀ key ∈ claimedKeys recovered,
      key ∈ payoutKeys payout ∧ claimedTotal recovered key = payoutTotal payout key) ∧
    ∀ tolerance, Reconciled tolerance recovered payout
        (reconcileAgainstPayout recovered payout tolerance) ∧
      ∀ recovered' payout', recovered'.Perm recovered → payout'.Perm payout →
        SameResult (reconcileAgainstPayout recovered payout tolerance)
          (reconcileAgainstPayout recovered' payout' tolerance) :=
  ⟨tiesOut_iff recovered payout, fun tolerance => ⟨reconciled tolerance recovered payout,
    fun _ _ h h' => sameResult h h'⟩⟩

end

namespace Sample

def claimOf (key : String) (amount : ℚ) : SettledOutcome ℚ where
  invoiceId := "in_" ++ key
  customerId := "cus_1"
  arm := .treatment
  stratum := "s1"
  outcome := .recovered
  invoiceAmount := amount
  recoveredAmount := amount
  currency := "USD"
  processorTxnId := some key

end Sample

/-- Books whose differences offset each other do not tie out. -/
theorem payout_ties_out_offset : (reconcileAgainstPayout
    [Sample.claimOf "ch_1" 100, Sample.claimOf "ch_2" 100] [⟨"ch_1", 150⟩, ⟨"ch_2", 50⟩]).tiesOut =
      false := by
  refine Bool.eq_false_iff.2 fun hties => ?_
  have hpaid := (payout_ties_out _ _).1.1 hties "ch_1" (by decide +kernel)
  exact absurd hpaid.2 (by decide +kernel)

end AX10M
