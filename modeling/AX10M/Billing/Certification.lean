/-
  The certification window (`@ax10m/billing`, `holdout-economics.ts`; `billing/billing-job.ts`).

  The window is counted from the date of the merchant's account, or from its earliest entry if it
  has none, and opting in again writes a new account.  So a merchant is certified once if and only
  if, after a run at the audit fraction, none of its later opt-ins lies less than the window before
  a run (`certified_once_iff`).
-/
import AX10M.Billing.Account
import AX10M.Billing.Uncollected

namespace AX10M

open Js Logs

/-! ## The fraction of a run -/

/-- The certification window. -/
def windowMs : ℤ := 90 * Date.msPerDay

/-- The text is a date, the window or more before an instant. -/
def PastWindow (onboardedAt : String) (now : ℤ) : Prop :=
  ∃ t, Date.parse onboardedAt = some t ∧ windowMs ≤ now - t

theorem holdoutFractionFor_eq {onboardedAt nowIso : String} {now : ℤ}
    (h : Date.parse nowIso = some now) :
    (PastWindow onboardedAt now ∧
      holdoutFractionFor onboardedAt nowIso defaultHoldoutSchedule =
        defaultHoldoutSchedule.auditFraction) ∨
    (¬ PastWindow onboardedAt now ∧
      holdoutFractionFor onboardedAt nowIso defaultHoldoutSchedule =
        defaultHoldoutSchedule.certificationFraction) := by
  rw [holdoutFractionFor, h]
  cases ht : Date.parse onboardedAt with
  | none =>
    refine .inr ⟨?_, rfl⟩
    rintro ⟨t, hparse, -⟩
    rw [ht] at hparse
    cases hparse
  | some t =>
    have hdays : ((now - t : ℤ) : ℚ) / Date.msPerDay < defaultHoldoutSchedule.certificationDays ↔
        now - t < windowMs := by
      have hwindow : (90 : ℚ) * (Date.msPerDay : ℚ) = (windowMs : ℚ) := by
        unfold windowMs
        push_cast
        rfl
      rw [div_lt_iff₀ (by norm_num [Date.msPerDay])]
      show ((now - t : ℤ) : ℚ) < 90 * (Date.msPerDay : ℚ) ↔ _
      rw [hwindow, Int.cast_lt]
    by_cases hlt : now - t < windowMs
    · refine .inr ⟨?_, if_pos (hdays.2 hlt)⟩
      rintro ⟨t', hparse, hle⟩
      obtain rfl := Option.some.inj (ht.symm.trans hparse)
      omega
    · exact .inl ⟨⟨t, ht, by omega⟩, if_neg fun h => hlt (hdays.1 h)⟩

/-- The fraction that is credited on the schedule. -/
theorem economicsFraction_cases {K : Type} [Field K] [LinearOrder K] [FloorRing K]
    {onboardedAt nowIso : String} {now : ℤ} (h : Date.parse nowIso = some now) (fee : ℤ) (lift : K)
    (treated : ℕ) :
    let econ := computeHoldoutEconomics fee lift treated
      (holdoutFractionFor onboardedAt nowIso defaultHoldoutSchedule)
    (PastWindow onboardedAt now ∧ econ.holdoutFraction = defaultHoldoutSchedule.auditFraction) ∨
    (¬ PastWindow onboardedAt now ∧
      econ.holdoutFraction = defaultHoldoutSchedule.certificationFraction) := by
  intro econ
  have hfraction : econ.holdoutFraction = max 0 (min (99 / 100)
      (holdoutFractionFor onboardedAt nowIso defaultHoldoutSchedule)) := rfl
  rcases @holdoutFractionFor_eq onboardedAt _ _ h with ⟨hw, hf⟩ | ⟨hw, hf⟩
  · refine .inl ⟨hw, ?_⟩
    rw [hfraction, hf]
    norm_num [defaultHoldoutSchedule]
  · refine .inr ⟨hw, ?_⟩
    rw [hfraction, hf]
    norm_num [defaultHoldoutSchedule]

/-! ## The earliest entry -/

/-- What the reader of the onboarding date keeps of the entries of a merchant. -/
def earliestOf (m : String) (entries : List LedgerEntry) : Option (ℤ × String) :=
  entries.foldl (fun acc e =>
    if e.merchantId ≠ m then acc
    else
      match Date.parse e.occurredAt with
      | some t => if ∀ p ∈ acc, t < p.1 then some (t, e.occurredAt) else acc
      | none => acc) none

theorem earliest_eq (m : String) (entries : List LedgerEntry) :
    onboardedAtFor.earliest m entries = (earliestOf m entries).map Prod.snd := rfl

theorem earliestOf_concat (m : String) (l : List LedgerEntry) (e : LedgerEntry) :
    earliestOf m (l ++ [e]) = earliestOf m l ∨
      ∃ t, Date.parse e.occurredAt = some t ∧ earliestOf m (l ++ [e]) = some (t, e.occurredAt) ∧
        ∀ p ∈ earliestOf m l, t < p.1 := by
  rw [earliestOf, List.foldl_append, List.foldl_cons, List.foldl_nil, ← earliestOf]
  by_cases hm : e.merchantId ≠ m
  · exact .inl (if_pos hm)
  · rw [if_neg hm]
    cases ht : Date.parse e.occurredAt with
    | none => exact .inl rfl
    | some t =>
      by_cases hlt : ∀ p ∈ earliestOf m l, t < p.1
      · exact .inr ⟨t, rfl, if_pos hlt, hlt⟩
      · exact .inl (if_neg hlt)

theorem earliestOf_parse {m : String} {l : List LedgerEntry} {p : ℤ × String}
    (h : earliestOf m l = some p) : Date.parse p.2 = some p.1 := by
  induction l using List.reverseRecOn generalizing p with
  | nil => cases h
  | append_singleton l e ih =>
    rcases earliestOf_concat m l e with hsame | ⟨t, ht, hnew, -⟩
    · exact ih (hsame ▸ h)
    · rw [hnew] at h
      obtain rfl := Option.some.inj h
      exact ht

/-- More entries leave the earliest one, or have an earlier one. -/
theorem earliestOf_append {m : String} {l : List LedgerEntry} {p : ℤ × String}
    (h : earliestOf m l = some p) (l' : List LedgerEntry) :
    ∃ q, earliestOf m (l ++ l') = some q ∧ q.1 ≤ p.1 := by
  induction l' using List.reverseRecOn with
  | nil => exact ⟨p, by rwa [List.append_nil], le_refl _⟩
  | append_singleton l' e ih =>
    obtain ⟨q, hq, hle⟩ := ih
    rw [← List.append_assoc]
    rcases earliestOf_concat m (l ++ l') e with hsame | ⟨t, -, hnew, hlt⟩
    · exact ⟨q, hsame.trans hq, hle⟩
    · exact ⟨_, hnew, (hlt q hq).le.trans hle⟩

/-! ## The table of accounts -/

/-- The accounts are kept under the ids of their merchants. -/
def KeptByMerchant (accounts : Map String BillingAccount) : Prop :=
  ∀ p ∈ accounts.entries, p.1 = "acct_" ++ p.2.merchantId

theorem optIn_cases (accounts : Map String BillingAccount) (input : OptInInput) (nowIso : String) :
    (validateOptIn input ≠ [] ∧ optIn accounts input nowIso = accounts) ∨
    (validateOptIn input = [] ∧ ∃ account : BillingAccount, account.merchantId = input.merchantId ∧
      account.createdAt = nowIso ∧
      optIn accounts input nowIso = accounts.set ("acct_" ++ input.merchantId) account) := by
  unfold optIn
  cases hb : buildBillingAccount input ("acct_" ++ input.merchantId) nowIso with
  | ok account =>
    obtain ⟨hv, hid, hm, hcreated⟩ := buildBillingAccount_eq_ok hb
    refine .inr ⟨hv, account, hm, hcreated, ?_⟩
    show accounts.set account.accountId account = _
    rw [hid]
  | error e =>
    refine .inl ⟨?_, rfl⟩
    intro hv
    unfold buildBillingAccount at hb
    rw [hv] at hb
    cases hb

theorem keptByMerchant_optIn {accounts : Map String BillingAccount} (h : KeptByMerchant accounts)
    (input : OptInInput) (nowIso : String) : KeptByMerchant (optIn accounts input nowIso) := by
  rcases optIn_cases accounts input nowIso with ⟨-, hsame⟩ | ⟨-, account, hm, -, hset⟩
  · rwa [hsame]
  · rw [hset]
    intro p hp
    rcases Map.mem_entries_set hp with hp | rfl
    · exact h p hp
    · rw [hm]

/-- The accounts of a merchant are the one that is kept under its id. -/
theorem KeptByMerchant.filter_values {accounts : Map String BillingAccount}
    (h : KeptByMerchant accounts) (m : String) :
    accounts.values.filter (fun a => a.merchantId = m) =
      (accounts.get ("acct_" ++ m)).toList := by
  have hfilter : accounts.values.filter (fun a => a.merchantId = m) =
      (accounts.entries.filter fun p => p.1 = "acct_" ++ m).map Prod.snd := by
    rw [Map.values, List.filter_map]
    refine congrArg _ (List.filter_congr fun p hp => ?_)
    have hiff : p.1 = "acct_" ++ m ↔ p.2.merchantId = m := by
      rw [h p hp]
      constructor
      · intro heq
        exact String.toList_injective (by simpa using congrArg String.toList heq)
      · intro heq
        rw [heq]
    simp [hiff]
  have hone : ∀ l : List (String × BillingAccount), (l.map Prod.fst).Nodup →
      (l.filter fun p => p.1 = "acct_" ++ m) =
        (l.find? fun p => p.1 = "acct_" ++ m).toList := by
    intro l
    induction l with
    | nil => exact fun _ => rfl
    | cons p l ih =>
      intro hnodup
      obtain ⟨hp, hl⟩ := List.nodup_cons.1 hnodup
      by_cases hk : p.1 = "acct_" ++ m
      · have hnone : l.filter (fun q => q.1 = "acct_" ++ m) = [] := by
          refine List.filter_eq_nil_iff.2 fun q hq hqk => hp ?_
          rw [hk, ← of_decide_eq_true hqk]
          exact List.mem_map_of_mem hq
        simp [hk, hnone]
      · simp [hk, ih hl]
  rw [hfilter, hone _ accounts.nodup, Map.get]
  cases accounts.entries.find? fun p => p.1 = "acct_" ++ m with
  | none => rfl
  | some p => rfl

/-- The onboarding date of the accounts is that of the merchant's. -/
theorem onboardedAtOf_values {accounts : Map String BillingAccount} (h : KeptByMerchant accounts)
    (m : String) :
    onboardedAtOf accounts.values m =
      (accounts.get ("acct_" ++ m)).map BillingAccount.createdAt := by
  rw [onboardedAtOf, h.filter_values]
  cases accounts.get ("acct_" ++ m) with
  | none => rfl
  | some account => rfl

/-! ## Opt-ins and jobs -/

inductive PortalStep (K : Type) where
  /-- a submission that is received at an instant -/
  | optIn (input : OptInInput) (nowIso : String) (instant : ℤ)
      (parsed : Date.parse nowIso = some instant)
  /-- a live job, after what the service appended -/
  | job (x : JobRun K)

/-- The ledger, the invoices and the accounts. -/
structure PortalState extends BillingState where
  accounts : Map String BillingAccount := Map.empty

/-- The job on the accounts that it reads. -/
def JobRun.reading {K : Type} (x : JobRun K) (accounts : List BillingAccount) : JobRun K :=
  { x with opts := { x.opts with
      accounts
      onboardedAt := onboardedAtOf accounts
      holdoutSchedule := defaultHoldoutSchedule } }

/-- The accepted submission of a merchant: its instant and its date. -/
def PortalStep.enrolls {K : Type} (m : String) : PortalStep K → Option (ℤ × String)
  | .optIn input nowIso instant _ =>
    if input.merchantId = m ∧ validateOptIn input = [] then some (instant, nowIso) else none
  | .job _ => none

/-- The last accepted submission of a merchant. -/
def lastOptIn {K : Type} (m : String) (xs : List (PortalStep K)) : Option (ℤ × String) :=
  (xs.filterMap (PortalStep.enrolls m)).getLast?

/-- The instant of a job. -/
def PortalStep.ranAt {K : Type} : PortalStep K → Option ℤ
  | .optIn .. => none
  | .job x => some x.instant

/-- The jobs are run at increasing times. -/
def JobsInOrder {K : Type} (xs : List (PortalStep K)) : Prop :=
  (xs.filterMap PortalStep.ranAt).Pairwise (· ≤ ·)

section

variable {K : Type} [Field K] [LinearOrder K] [FloorRing K]

/-- The state after a step. -/
def PortalState.step (s : PortalState) : PortalStep K → PortalState
  | .optIn input nowIso _ _ => { s with accounts := optIn s.accounts input nowIso }
  | .job x => { s with toBillingState := (x.reading s.accounts.values).after s.toBillingState }

/-- The state after some steps. -/
def portalState (xs : List (PortalStep K)) : PortalState := xs.foldl PortalState.step {}

/-- The entries that a job reads. -/
def entriesAt (xs : List (PortalStep K)) (x : JobRun K) : List LedgerEntry :=
  x.entries (portalState xs).toBillingState

/-- A job credits a merchant for some holdout fraction. -/
def CreditsAt (xs : List (PortalStep K)) (x : JobRun K) (m : String) (f : ℚ) : Prop :=
  ∃ r ∈ (x.reading (portalState xs).accounts.values).results (portalState xs).toBillingState,
    r.merchantId = m ∧ r.economics.holdoutFraction = f

/-- The onboarding of a merchant, as a job sees it. -/
def onboarding (m : String) (xs : List (PortalStep K)) (x : JobRun K) : Option (ℤ × String) :=
  (lastOptIn m xs).or (earliestOf m (entriesAt xs x))

/-! ### What the steps keep -/

theorem portalState_concat (xs : List (PortalStep K)) (y : PortalStep K) :
    portalState (xs ++ [y]) = (portalState xs).step y := by
  simp [portalState]

@[simp] theorem PortalState.step_optIn (s : PortalState) (input : OptInInput) (nowIso : String)
    (instant : ℤ) (parsed : Date.parse nowIso = some instant) :
    (s.step (.optIn input nowIso instant parsed : PortalStep K)).accounts =
      AX10M.optIn s.accounts input nowIso := by
  simp only [PortalState.step]

@[simp] theorem PortalState.step_job (s : PortalState) (x : JobRun K) :
    (s.step (.job x)).accounts = s.accounts := by
  simp only [PortalState.step]

theorem keptByMerchant_portal (xs : List (PortalStep K)) :
    KeptByMerchant (portalState xs).accounts := by
  induction xs using List.reverseRecOn with
  | nil => simp [portalState, KeptByMerchant, Map.empty]
  | append_singleton xs y ih =>
    rw [portalState_concat]
    cases y with
    | optIn input nowIso instant parsed =>
      rw [PortalState.step_optIn]
      exact keptByMerchant_optIn ih input nowIso
    | job x =>
      rw [PortalState.step_job]
      exact ih

/-- The account of a merchant is of its last accepted submission. -/
theorem account_portal (xs : List (PortalStep K)) (m : String) :
    ((portalState xs).accounts.get ("acct_" ++ m)).map BillingAccount.createdAt =
      (lastOptIn m xs).map Prod.snd := by
  induction xs using List.reverseRecOn with
  | nil => rfl
  | append_singleton xs y ih =>
    rw [portalState_concat, lastOptIn, List.filterMap_append]
    cases y with
    | job x => simpa [PortalStep.enrolls, lastOptIn] using ih
    | optIn input nowIso instant parsed =>
      rw [PortalState.step_optIn]
      rcases optIn_cases (portalState xs).accounts input nowIso with
        ⟨hv, hsame⟩ | ⟨hv, account, -, hcreated, hset⟩
      · simpa [hsame, PortalStep.enrolls, hv, lastOptIn] using ih
      · rw [hset, Map.get_set]
        by_cases hm : input.merchantId = m
        · simp [hm, hv, hcreated, PortalStep.enrolls]
        · have hkey : "acct_" ++ m ≠ "acct_" ++ input.merchantId := by
            intro heq
            exact hm (String.toList_injective (by simpa using (congrArg String.toList heq).symm))
          simpa [hkey, hm, PortalStep.enrolls, lastOptIn] using ih

omit [Field K] [LinearOrder K] [FloorRing K] in
theorem lastOptIn_parse {xs : List (PortalStep K)} {m : String} {p : ℤ × String}
    (h : lastOptIn m xs = some p) : Date.parse p.2 = some p.1 := by
  obtain ⟨y, -, hy⟩ := List.mem_filterMap.1 (List.mem_of_getLast? h)
  cases y with
  | job x => cases hy
  | optIn input nowIso instant parsed =>
    by_cases hm : input.merchantId = m ∧ validateOptIn input = []
    · obtain rfl : (instant, nowIso) = p := by simpa [PortalStep.enrolls, hm] using hy
      exact parsed
    · simp [PortalStep.enrolls, hm] at hy

/-- A job leaves the entries that it read, and more. -/
theorem ledger_job (xs : List (PortalStep K)) (x : JobRun K) :
    entriesAt xs x <+: (portalState (xs ++ [.job x])).ledger := by
  rw [portalState_concat]
  exact ⟨_, (JobRun.after_ledger (x.reading (portalState xs).accounts.values)
    (portalState xs).toBillingState).symm⟩

/-- The ledger only grows. -/
theorem ledger_portal (xs ys : List (PortalStep K)) :
    (portalState xs).ledger <+: (portalState (xs ++ ys)).ledger := by
  induction ys using List.reverseRecOn with
  | nil => rw [List.append_nil]
  | append_singleton ys y ih =>
    rw [← List.append_assoc]
    cases y with
    | optIn input nowIso instant parsed =>
      rw [portalState_concat]
      exact ih
    | job x => exact (ih.trans (List.prefix_append _ _)).trans (ledger_job (xs ++ ys) x)

/-- A later job reads what an earlier one read, and more. -/
theorem entriesAt_later (before mid : List (PortalStep K)) (x y : JobRun K) :
    entriesAt before x <+: entriesAt (before ++ .job x :: mid) y := by
  have hgrows := (ledger_job before x).trans (ledger_portal (before ++ [.job x]) mid)
  rw [List.append_assoc, List.singleton_append] at hgrows
  exact hgrows.trans (List.prefix_append _ _)

/-! ### The fraction that a job credits -/

/-- A job credits a merchant for the audit fraction if its onboarding lies the window or more
    before the job, and for the certification fraction otherwise. -/
theorem creditsAt_cases {xs : List (PortalStep K)} {x : JobRun K} {r : BillingMerchantResult K}
    (hr : r ∈ (x.reading (portalState xs).accounts.values).results (portalState xs).toBillingState) :
    ((∃ p ∈ onboarding r.merchantId xs x, windowMs ≤ x.instant - p.1) ∧
      r.economics.holdoutFraction = defaultHoldoutSchedule.auditFraction) ∨
    (¬ (∃ p ∈ onboarding r.merchantId xs x, windowMs ≤ x.instant - p.1) ∧
      r.economics.holdoutFraction = defaultHoldoutSchedule.certificationFraction) := by
  have hbilled := JobRun.results_mem hr
  have hdate : onboardedAtFor r.merchantId (entriesAt xs x)
      (onboardedAtOf (portalState xs).accounts.values) =
        (onboarding r.merchantId xs x).map Prod.snd := by
    rw [onboardedAtFor, onboardedAtOf_values (keptByMerchant_portal xs), account_portal, onboarding]
    cases ho : lastOptIn r.merchantId xs with
    | none => exact earliest_eq _ _
    | some p =>
      have hne : p.2 ≠ "" := by
        intro hempty
        have hp := lastOptIn_parse ho
        rw [hempty] at hp
        cases hp
      simp [hne]
  have hparse : ∀ p ∈ onboarding r.merchantId xs x, Date.parse p.2 = some p.1 := by
    intro p hp
    rw [onboarding] at hp
    cases ho : lastOptIn r.merchantId xs with
    | none =>
      rw [ho] at hp
      exact earliestOf_parse hp
    | some q =>
      rw [ho] at hp
      obtain rfl := Option.some.inj hp
      exact lastOptIn_parse ho
  have hpast : PastWindow (((onboarding r.merchantId xs x).map Prod.snd).getD x.opts.nowIso)
      x.instant ↔ ∃ p ∈ onboarding r.merchantId xs x, windowMs ≤ x.instant - p.1 := by
    cases ho : onboarding r.merchantId xs x with
    | none =>
      -- the run's own date is not past the window
      constructor
      · rintro ⟨t, ht, hle⟩
        obtain rfl := Option.some.inj (ht.symm.trans x.parsed)
        rw [windowMs, Date.msPerDay] at hle
        omega
      · rintro ⟨p, hp, -⟩
        cases hp
    | some p =>
      have hp := hparse p ho
      constructor
      · rintro ⟨t, ht, hle⟩
        obtain rfl := Option.some.inj (ht.symm.trans hp)
        exact ⟨p, rfl, hle⟩
      · rintro ⟨q, hq, hle⟩
        obtain rfl := Option.some.inj hq
        exact ⟨p.1, hp, hle⟩
  have hecon : r.economics = computeHoldoutEconomics r.statement.result.fee
      r.statement.result.deltaPer r.statement.result.treatedInvoices
      (holdoutFractionFor (((onboarding r.merchantId xs x).map Prod.snd).getD x.opts.nowIso)
        x.opts.nowIso defaultHoldoutSchedule) := by
    rw [hbilled.economics, ← hdate]
    rfl
  rw [hecon]
  rcases economicsFraction_cases x.parsed r.statement.result.fee r.statement.result.deltaPer
    r.statement.result.treatedInvoices with ⟨hw, hf⟩ | ⟨hw, hf⟩
  · exact .inl ⟨hpast.1 hw, hf⟩
  · exact .inr ⟨fun h => hw (hpast.2 h), hf⟩

/-! ### The window of a merchant -/

/-- No job credits for the certification fraction after one that did for the audit fraction. -/
def CertifiedOnce (m : String) (xs : List (PortalStep K)) : Prop :=
  ∀ before x mid y after, xs = before ++ .job x :: (mid ++ .job y :: after) →
    CreditsAt before x m defaultHoldoutSchedule.auditFraction →
      ¬ CreditsAt (before ++ .job x :: mid) y m defaultHoldoutSchedule.certificationFraction

omit [Field K] [LinearOrder K] [FloorRing K] in
theorem lastOptIn_later (m : String) (before mid : List (PortalStep K)) (x : JobRun K) :
    lastOptIn m (before ++ .job x :: mid) = (lastOptIn m mid).or (lastOptIn m before) := by
  rw [lastOptIn, List.filterMap_append, List.getLast?_append, ← lastOptIn]
  rfl

omit [Field K] [LinearOrder K] [FloorRing K] in
theorem instant_le {before mid after : List (PortalStep K)} {x y : JobRun K}
    (h : JobsInOrder (before ++ .job x :: (mid ++ .job y :: after))) : x.instant ≤ y.instant := by
  rw [JobsInOrder, List.filterMap_append] at h
  have htail := (List.pairwise_append.1 h).2.1
  rw [List.filterMap_cons_some (show PortalStep.ranAt (.job x) = some x.instant from rfl)] at htail
  refine (List.pairwise_cons.1 htail).1 _ (List.mem_filterMap.2 ⟨.job y, ?_, rfl⟩)
  simp

theorem audit_ne_certification :
    defaultHoldoutSchedule.auditFraction ≠ defaultHoldoutSchedule.certificationFraction := by
  norm_num [defaultHoldoutSchedule]

/-- A merchant is certified once if and only if, between a job that credits it for the audit
    fraction and a later one that bills it, the last of its opt-ins, if there is one, lies the
    window or more before the later job. -/
theorem certified_once_iff (m : String) (xs : List (PortalStep K)) (h : JobsInOrder xs) :
    CertifiedOnce m xs ↔
      ∀ before x mid y after, xs = before ++ .job x :: (mid ++ .job y :: after) →
        CreditsAt before x m defaultHoldoutSchedule.auditFraction →
        (∃ f, CreditsAt (before ++ .job x :: mid) y m f) →
          ∀ p ∈ lastOptIn m mid, windowMs ≤ y.instant - p.1 := by
  constructor
  · rintro honce before x mid y after rfl haudit ⟨f, r, hr, rfl, -⟩ p hp
    rcases creditsAt_cases hr with ⟨⟨q, hq, hle⟩, -⟩ | ⟨-, hf⟩
    · rw [onboarding, lastOptIn_later, hp] at hq
      obtain rfl : p = q := Option.some.inj hq
      exact hle
    · exact absurd ⟨r, hr, rfl, hf⟩ (honce before x mid y after rfl haudit)
  · rintro hwindow before x mid y after rfl haudit hcert
    have hbills := hwindow before x mid y after rfl haudit ⟨_, hcert⟩
    obtain ⟨r, hr, rfl, hf⟩ := hcert
    obtain ⟨r', hr', hm, hf'⟩ := haudit
    have hle := instant_le h
    -- the later job is not past the window
    rcases creditsAt_cases hr with ⟨-, hother⟩ | ⟨hnot, -⟩
    · exact audit_ne_certification (hother.symm.trans hf)
    refine hnot ?_
    rw [onboarding, lastOptIn_later]
    cases ho : lastOptIn r.merchantId mid with
    | some p => exact ⟨p, rfl, hbills p ho⟩
    | none =>
      -- its onboarding is that of the earlier one, or before it
      rcases creditsAt_cases hr' with ⟨⟨p, hp, hpast⟩, -⟩ | ⟨-, hother⟩
      · rw [hm, onboarding] at hp
        cases hb : lastOptIn r.merchantId before with
        | some q =>
          rw [hb] at hp
          obtain rfl : q = p := Option.some.inj hp
          exact ⟨q, rfl, by omega⟩
        | none =>
          rw [hb] at hp
          obtain ⟨l, hl⟩ := entriesAt_later before mid x y
          obtain ⟨q, hq, hqp⟩ := earliestOf_append hp l
          rw [hl] at hq
          exact ⟨q, hq, by omega⟩
      · exact absurd (hf'.symm.trans hother) audit_ne_certification

end

namespace Sample

/-- A submission for invoices. -/
def submission : OptInInput where
  merchantId := "mrc_1"
  legalEntityName := "Acme Inc."
  billingAddress := ⟨"1 Main St", none, "Springfield", "IL", "62701", "US"⟩
  apContactEmail := "ap@acme.example"
  payerTrack := .invoice
  signer := ⟨"Ada Clerk", "CFO", "ada@acme.example"⟩

/-- The submission on the first of January 2025. -/
def optsIn : PortalStep ℚ :=
  .optIn submission "2025-01-01T00:00:00.000Z" 1735689600000 (by decide +kernel)

/-- The submission once more, on the tenth of February 2026. -/
def optsInAgain : PortalStep ℚ :=
  .optIn submission "2026-02-10T00:00:00.000Z" 1770681600000 (by decide +kernel)

theorem march_first : Date.parse "2026-03-01T06:00:00.000Z" = some 1772344800000 := by
  decide +kernel

/-- A run on the first of March, with nothing new in the ledger. -/
def marchRun : JobRun ℚ where
  activity := []
  quiet := by simp
  opts := { (januaryRun 3).opts with nowIso := "2026-03-01T06:00:00.000Z" }
  instant := 1772344800000
  parsed := march_first
  stop := 3

/-- The merchants of a run and the fractions that it credits them for. -/
def credited (xs : List (PortalStep ℚ)) (x : JobRun ℚ) : List (String × ℚ) :=
  ((x.reading (portalState xs).accounts.values).results (portalState xs).toBillingState).map
    fun r => (r.merchantId, r.economics.holdoutFraction)

theorem creditsAt_of_credited {xs : List (PortalStep ℚ)} {x : JobRun ℚ} {m : String} {f : ℚ}
    (h : (m, f) ∈ credited xs x) : CreditsAt xs x m f := by
  obtain ⟨r, hr, heq⟩ := List.mem_map.1 h
  obtain ⟨hm, hf⟩ := Prod.mk.inj heq
  exact ⟨r, hr, hm, hf⟩

end Sample

/-- Opting in again starts the window again. -/
theorem certified_once_fails :
    ¬ CertifiedOnce "mrc_1"
      [Sample.optsIn, .job (Sample.januaryRun 3), Sample.optsInAgain, .job Sample.marchRun] := by
  have haudit : ("mrc_1", defaultHoldoutSchedule.auditFraction) ∈
      Sample.credited [Sample.optsIn] (Sample.januaryRun 3) := by
    decide +kernel
  have hcert : ("mrc_1", defaultHoldoutSchedule.certificationFraction) ∈ Sample.credited
      [Sample.optsIn, .job (Sample.januaryRun 3), Sample.optsInAgain] Sample.marchRun := by
    decide +kernel
  intro h
  exact h [Sample.optsIn] (Sample.januaryRun 3) [Sample.optsInAgain] Sample.marchRun [] rfl
    (Sample.creditsAt_of_credited haudit) (Sample.creditsAt_of_credited hcert)

/-- A merchant that opted in once is certified once. -/
theorem certified_once_single :
    CertifiedOnce "mrc_1" [Sample.optsIn, .job (Sample.januaryRun 3), .job Sample.marchRun] := by
  have hinstants : JobsInOrder
      [Sample.optsIn, .job (Sample.januaryRun 3), .job Sample.marchRun] := by
    show List.Pairwise (· ≤ ·) [(1769925600000 : ℤ), 1772344800000]
    decide
  refine (certified_once_iff "mrc_1" _ hinstants).2 ?_
  intro before x mid y after heq _ _ p hp
  have hmid : ∀ z ∈ mid, z = .job (Sample.januaryRun 3) ∨ z = .job Sample.marchRun := by
    intro z hz
    cases before with
    | nil => cases heq
    | cons b before =>
      have htail := (List.cons.inj heq).2
      have hmem : z ∈ [PortalStep.job (Sample.januaryRun 3), .job Sample.marchRun] := by
        rw [htail]
        simp [hz]
      simpa using hmem
  obtain ⟨z, hz, henrolls⟩ := List.mem_filterMap.1 (List.mem_of_getLast? hp)
  rcases hmid z hz with rfl | rfl <;> cases henrolls

end AX10M
