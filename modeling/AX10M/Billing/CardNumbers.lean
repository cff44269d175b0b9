/-
  Card numbers in a billing account (`account.ts`).

  The scan of a submission finds every run of digits in the fields it looks at, but it looks at
  four of them.  So an account has no run exactly when the others have none, unless the submission
  is refused for another reason (`cardNumbers_iff`).
-/
import AX10M.Billing.Account
import AX10M.Billing.Deliverable
import AX10M.Js.Runs

namespace AX10M

open Js

/-! ## The texts of an account -/

/-- The texts of an address. -/
def PostalAddress.texts (a : PostalAddress) : List String :=
  [a.line1, a.line2.getD "", a.city, a.region, a.postalCode, a.country]

/-- The texts of an account; one that is absent is empty. -/
def BillingAccount.texts (account : BillingAccount) : List String :=
  account.accountId :: account.createdAt ::
    (account.merchantId :: account.legalEntityName :: account.apContactEmail ::
      account.feeSchedule.currency :: account.billingAddress.texts) ++
    [account.taxId.getD "", account.poNumber.getD "", account.paymentMethodRef.getD "",
      account.customerRef.getD ""]

/-- The texts of a submission that are stored without being looked at. -/
def OptInInput.unscanned (input : OptInInput) : List String :=
  input.merchantId :: input.legalEntityName :: input.apContactEmail ::
    (input.feeSchedule.getD defaultFeeSchedule).currency :: input.billingAddress.texts

/-- The texts of a submission that are looked at. -/
def OptInInput.scanned (input : OptInInput) : List String :=
  [input.taxId.getD "", input.poNumber.getD "", input.paymentMethodRef.getD "",
    input.customerRef.getD ""]

/-- The texts of a submission that are stored; those of the payment are on its own track. -/
def OptInInput.stored (input : OptInInput) : List String :=
  input.unscanned ++ [input.taxId.getD "", input.poNumber.getD "",
    (if input.payerTrack = .autoPay then input.paymentMethodRef else none).getD "",
    (if input.payerTrack = .autoPay then input.customerRef else none).getD ""]

/-- The checks before the scan. -/
def requiredChecks (input : OptInInput) : List (Bool × String) := (optInChecks input).take 17

/-! ## What the scan finds -/

theorem looksLikePan_iff (s : Option String) : looksLikePan s = true ↔ HasRun 13 (s.getD "") :=
  panSomewhere_iff _

theorem not_hasRun_empty (n : ℕ) : ¬ HasRun n "" := by
  rintro ⟨before, run, after, m, hs, hn, hrun⟩
  cases hrun with
  | mk hd hmore => simp at hs

theorem failing_ne_nil {checks : List (Bool × String)} :
    failing checks ≠ [] ↔ ∃ p ∈ checks, p.1 = true := by
  rw [failing, Ne, List.map_eq_nil_iff, List.filter_eq_nil_iff]
  simp only [not_forall, not_not, exists_prop]

/-- A submission is refused for what it lacks, or for a run that the scan finds. -/
theorem refused_iff (input : OptInInput) (accountId createdAt : String) :
    (∃ e, buildBillingAccount input accountId createdAt = .error e) ↔
      failing (requiredChecks input) ≠ [] ∨ ∃ s ∈ input.scanned, HasRun 13 s := by
  have hchecks : optInChecks input = requiredChecks input ++
      (optInChecks input).drop 17 := (List.take_append_drop 17 _).symm
  have hscan : (∃ p ∈ (optInChecks input).drop 17, p.1 = true) ↔
      ∃ s ∈ input.scanned, HasRun 13 s := by
    simp only [optInChecks, List.drop_succ_cons, List.drop_zero, List.mem_cons, List.not_mem_nil,
      or_false, exists_eq_or_imp, exists_eq_left, looksLikePan_iff, OptInInput.scanned]
    tauto
  have hrefused : (∃ e, buildBillingAccount input accountId createdAt = .error e) ↔
      validateOptIn input ≠ [] := by
    unfold buildBillingAccount
    cases validateOptIn input with
    | nil => simp
    | cons e errors => simp
  rw [hrefused, validateOptIn, failing_ne_nil, hchecks, failing_ne_nil, ← hscan]
  simp only [List.mem_append, or_and_right, exists_or]

/-- The texts of an account are those of its submission that are stored, and what it is stored
    under. -/
theorem texts_of_account {input : OptInInput} {accountId createdAt : String}
    {account : BillingAccount} (h : buildBillingAccount input accountId createdAt = .ok account) :
    account.texts = accountId :: createdAt :: input.stored := by
  unfold buildBillingAccount at h
  split at h
  next =>
    obtain rfl := Except.ok.inj h
    rfl
  next => cases h

/-! ## No card number in an account -/

/-- What is not looked at is stored. -/
theorem unscanned_subset (input : OptInInput) : ∀ s ∈ input.unscanned, s ∈ input.stored :=
  fun _ hs => List.mem_append_left _ hs

theorem stored_subset (input : OptInInput) :
    ∀ s ∈ input.stored, s ∈ input.unscanned ∨ s ∈ input.scanned ∨ s = "" := by
  intro s hs
  rcases List.mem_append.1 hs with hs | hs
  · exact .inl hs
  · right
    by_cases htrack : input.payerTrack = .autoPay
    · simp only [htrack, if_true] at hs
      exact .inl hs
    · simp only [htrack, if_false, Option.getD_none, List.mem_cons, List.not_mem_nil,
        or_false] at hs
      rcases hs with rfl | rfl | hs | hs
      · exact .inl List.mem_cons_self
      · exact .inl (List.mem_cons_of_mem _ List.mem_cons_self)
      · exact .inr hs
      · exact .inr hs

/-- No account that is built has a card number in it, and a submission with one in a field that is
    stored is refused, exactly when a run in a text that is not looked at comes with another reason
    to refuse. -/
theorem cardNumbers_iff (input : OptInInput) (accountId createdAt : String) :
    ((∀ account, buildBillingAccount input accountId createdAt = .ok account →
        ∀ s ∈ account.texts, ¬ HasRun 13 s) ∧
      ((∃ s ∈ input.stored, HasRun 13 s) →
        ∃ e, buildBillingAccount input accountId createdAt = .error e)) ↔
    ((∃ s ∈ accountId :: createdAt :: input.unscanned, HasRun 13 s) →
      failing (requiredChecks input) ≠ [] ∨ ∃ s ∈ input.scanned, HasRun 13 s) := by
  rw [← refused_iff input accountId createdAt]
  constructor
  · rintro ⟨haccount, -⟩ ⟨s, hs, hrun⟩
    cases hb : buildBillingAccount input accountId createdAt with
    | error e => exact ⟨e, rfl⟩
    | ok account =>
      have hnone := haccount account hb
      rw [texts_of_account hb] at hnone
      rw [List.mem_cons, List.mem_cons] at hs
      rcases hs with rfl | rfl | hs
      · exact absurd hrun (hnone s List.mem_cons_self)
      · exact absurd hrun (hnone s (List.mem_cons_of_mem _ List.mem_cons_self))
      · exact absurd hrun (hnone s (List.mem_cons_of_mem _ (List.mem_cons_of_mem _
          (unscanned_subset input s hs))))
  · intro h
    have hstored : (∃ s ∈ input.stored, HasRun 13 s) →
        ∃ e, buildBillingAccount input accountId createdAt = .error e := by
      rintro ⟨s, hs, hrun⟩
      rcases stored_subset input s hs with hs | hs | rfl
      · exact h ⟨s, List.mem_cons_of_mem _ (List.mem_cons_of_mem _ hs), hrun⟩
      · exact (refused_iff input accountId createdAt).2 (.inr ⟨s, hs, hrun⟩)
      · exact absurd hrun (not_hasRun_empty 13)
    refine ⟨?_, hstored⟩
    intro account hb
    have haccepted : ¬ ∃ e, buildBillingAccount input accountId createdAt = .error e := by
      rintro ⟨e, he⟩
      rw [hb] at he
      cases he
    rw [texts_of_account hb]
    intro s hs hrun
    rw [List.mem_cons, List.mem_cons] at hs
    rcases hs with rfl | rfl | hs
    · exact haccepted (h ⟨s, List.mem_cons_self, hrun⟩)
    · exact haccepted (h ⟨s, List.mem_cons_of_mem _ List.mem_cons_self, hrun⟩)
    · exact haccepted (hstored ⟨s, hs, hrun⟩)

namespace Sample

/-- A submission with a card number in the name of the entity. -/
def cardSubmission : OptInInput :=
  { apSubmission "mrc_1" with legalEntityName := "Example 4242 4242 4242 4242 GmbH" }

end Sample

/-- A card number in the name of the entity is stored. -/
theorem cardNumbers_fails :
    ∃ account, buildBillingAccount Sample.cardSubmission "acct_mrc_1" "2026-01-01T00:00:00.000Z" =
        .ok account ∧
      "Example 4242 4242 4242 4242 GmbH" ∈ account.texts ∧
      HasRun 13 "Example 4242 4242 4242 4242 GmbH" := by
  have hvalid : validateOptIn Sample.cardSubmission = [] := by decide +kernel
  have hpan : panSomewhere "Example 4242 4242 4242 4242 GmbH".toList = true := by decide +kernel
  refine ⟨_, by rw [buildBillingAccount, hvalid], ?_, (panSomewhere_iff _).1 hpan⟩
  simp [BillingAccount.texts, Sample.cardSubmission]

end AX10M
