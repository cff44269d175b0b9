/-
  Snapshots of features, and the outcomes that label them.

  Every plan enters a snapshot of its invoice's features; the training corpus takes the last
  snapshot of each invoice, and labels it by an outcome of the invoice that stands anywhere in the
  ledger.

  `snapshot_entered` says which request entered a snapshot, and in which world the feature store
  gave it.  `trainsWithoutLeakage_iff`: at every moment of a run, each sample's snapshot stands
  before an outcome that labels it, if and only if no request plans an invoice that already has an
  outcome.
-/
import AX10M.Recovery.Failure
import AX10M.Recovery.Settlement

namespace AX10M

open Js Effects LedgerSamples

/-! ## Samples of a ledger -/

/-- The entry is an outcome of the invoice that labels it, as recovered or as not. -/
def LabelOf (i : String) (recovered : Bool) (x : LedgerEntry) : Prop :=
  x.type = (if recovered then .caseRecovered else .chargeFailed) ∧ x.isFor i

instance (i : String) (recovered : Bool) : DecidablePred (LabelOf i recovered) := fun x =>
  inferInstanceAs (Decidable
    (x.type = (if recovered then .caseRecovered else .chargeFailed) ∧ x.isFor i))

/-- The features of an invoice are taken from an entry of the ledger, its last snapshot. -/
structure TakenFrom (l : List LedgerEntry) (i : String) (features : Json)
    (pre : List LedgerEntry) (x : LedgerEntry) (post : List LedgerEntry) : Prop where
  split : l = pre ++ x :: post
  snapshot : SnapshotOf i x
  features : x.field "features" = some features
  last : ∀ y ∈ post, ¬ SnapshotOf i y

section

variable {l : List LedgerEntry} {i : String}

theorem LabelOf.not_snapshot {b : Bool} {x : LedgerEntry} (h : LabelOf i b x) (j : String) :
    ¬ SnapshotOf j x := by
  intro hx
  have htype := h.1
  rw [hx.1] at htype
  cases b <;> cases htype

theorem object?_eq_some {v : Option Json} {f : Json} (h : object? v = some f) : v = some f := by
  unfold object? at h
  split at h
  · exact h
  · exact h
  · cases h

/-- The snapshot of an invoice after an entry is that of the entry, if it has one. -/
theorem read_features_get (seen : Seen) (e : LedgerEntry) (i : String) :
    (LedgerSamples.read seen e).features.get i =
      if str (e.field "invoiceId") = some i ∧ e.type = .recoveryPlanned then
        (object? (e.field "features")).or (seen.features.get i)
      else seen.features.get i := by
  unfold LedgerSamples.read
  cases str (e.field "invoiceId") with
  | none => simp
  | some id =>
    cases e.type with
    | recoveryPlanned =>
      cases object? (e.field "features") with
      | none => simp
      | some f =>
        simp only [Map.get_set, Option.some.injEq, and_true, eq_comm (a := i), Option.some_or]
    | _ => simp

/-- The features that the reader has of an invoice are taken from the ledger. -/
theorem exists_takenFrom {f : Json} (h : (readAll l).features.get i = some f) :
    i ≠ "" ∧ ∃ pre x post, TakenFrom l i f pre x post := by
  induction l using List.reverseRecOn with
  | nil => cases h
  | append_singleton l e ih =>
    rw [readAll_concat, read_features_get] at h
    have kept : (readAll l).features.get i = some f → ¬ SnapshotOf i e →
        i ≠ "" ∧ ∃ pre x post, TakenFrom (l ++ [e]) i f pre x post := by
      intro hl he
      obtain ⟨hi, pre, x, post, htaken⟩ := ih hl
      refine ⟨hi, pre, x, post ++ [e], ?_, htaken.snapshot, htaken.features, ?_⟩
      · rw [htaken.split, List.append_assoc, List.cons_append]
      · intro y hy
        rcases List.mem_append.1 hy with hy | hy
        · exact htaken.last y hy
        · rw [List.mem_singleton.1 hy]
          exact he
    split_ifs at h with hplan
    · obtain ⟨hid, htype⟩ := hplan
      obtain ⟨hfield, hi⟩ := str_eq_some hid
      cases hobj : object? (e.field "features") with
      | none =>
        rw [hobj, Option.none_or] at h
        refine kept h ?_
        rintro ⟨-, -, hsome⟩
        rw [hobj] at hsome
        cases hsome
      | some f' =>
        rw [hobj, Option.some_or] at h
        obtain rfl := Option.some.inj h
        refine ⟨hi, l, e, [], rfl, ⟨htype, ?_, ?_⟩, object?_eq_some hobj, ?_⟩
        · exact (LedgerEntry.isFor_iff e i).2 hfield
        · rw [hobj]
          rfl
        · intro y hy
          cases hy
    · by_cases hi : i = ""
      · subst hi
        obtain ⟨hi, -⟩ := ih h
        exact absurd rfl hi
      · refine kept h ?_
        rintro ⟨htype, hfor, -⟩
        exact hplan ⟨(str_eq_some_iff hi).2 hfor, htype⟩

theorem sample_of_known {seen : Seen} (weight : Bool) (f : Json)
    (h : i ∈ seen.recovered ∨ i ∈ seen.failed) :
    ∃ sample, seen.sample weight i f = some sample := by
  refine ⟨_, if_neg ?_⟩
  simp only [Bool.and_eq_true, Bool.not_eq_true', decide_eq_false_iff_not, decide_eq_true_eq]
  rintro ⟨hrec, hfail⟩
  exact h.elim hrec hfail

/-- The sample of an invoice has its features, and the outcome that is known of it. -/
theorem sample_eq_some {seen : Seen} {weight : Bool} {f : Json} {sample : LabelledSnapshot}
    (h : seen.sample weight i f = some sample) :
    (i ∈ seen.recovered ∨ i ∈ seen.failed) ∧ sample.features = f ∧
      sample.recovered = decide (i ∈ seen.recovered) := by
  by_cases hknown : i ∈ seen.recovered ∨ i ∈ seen.failed
  · unfold Seen.sample at h
    simp only at h
    split at h
    · cases h
    · rw [← Option.some.inj h]
      exact ⟨hknown, rfl, rfl⟩
  · rw [not_or] at hknown
    simp only [Seen.sample, hknown.1, hknown.2, decide_false, Bool.not_false, not_false_eq_true,
      decide_true, Bool.and_self, if_true, reduceCtorEq] at h

/-- A sample is taken from the ledger, and the ledger has an outcome that labels it. -/
theorem takenFrom_of_labelled {weight : Bool} {sample : LabelledSnapshot}
    (h : (i, sample) ∈ labelled l weight) :
    i ≠ "" ∧ (∃ pre x post, TakenFrom l i sample.features pre x post) ∧
      ∃ y ∈ l, LabelOf i sample.recovered y := by
  obtain ⟨⟨j, f⟩, hmem, hsample⟩ := List.mem_filterMap.1 h
  obtain ⟨sample', hs, heq⟩ := Option.map_eq_some_iff.1 hsample
  obtain ⟨rfl, rfl⟩ := Prod.mk.inj heq
  obtain ⟨hi, htaken⟩ := exists_takenFrom (Map.get_eq_some_iff.2 hmem)
  obtain ⟨hlabel, hfeatures, hrecovered⟩ := sample_eq_some hs
  rw [hfeatures, hrecovered]
  refine ⟨hi, htaken, ?_⟩
  by_cases hrec : j ∈ (readAll l).recovered
  · obtain ⟨y, hy, htype, hfor⟩ := (mem_recovered hi).1 hrec
    refine ⟨y, hy, ?_, hfor⟩
    simp only [hrec, decide_true, if_true, htype]
  · obtain ⟨y, hy, htype, hfor⟩ := (mem_failed hi).1 (hlabel.resolve_left hrec)
    refine ⟨y, hy, ?_, hfor⟩
    simp only [hrec, decide_false, Bool.false_eq_true, if_false, htype]

/-- An invoice with a snapshot and an outcome has a sample. -/
theorem exists_labelled (hi : i ≠ "") (weight : Bool) (hsnap : ∃ x ∈ l, SnapshotOf i x) {b : Bool}
    (hlabel : ∃ y ∈ l, LabelOf i b y) : ∃ sample, (i, sample) ∈ labelled l weight := by
  obtain ⟨f, hf⟩ := Option.isSome_iff_exists.1 (features_isSome hi hsnap)
  have hknown : i ∈ (readAll l).recovered ∨ i ∈ (readAll l).failed := by
    cases b with
    | true => exact .inl ((mem_recovered hi).2 hlabel)
    | false => exact .inr ((mem_failed hi).2 hlabel)
  obtain ⟨sample, hsample⟩ := sample_of_known weight f hknown
  refine ⟨sample, List.mem_filterMap.2 ⟨(i, f), Map.mem_entries_of_get hf, ?_⟩⟩
  exact Option.map_eq_some_iff.2 ⟨sample, hsample, rfl⟩

end

/-! ## What an execution appends -/

/-- The entry carries no features, or is not of a plan. -/
def Featureless (x : LedgerEntry) : Prop := x.type = .recoveryPlanned → x.field "features" = none

theorem Featureless.not_snapshot {x : LedgerEntry} (h : Featureless x) (i : String) :
    ¬ SnapshotOf i x := by
  rintro ⟨htype, -, hsome⟩
  rw [h htype] at hsome
  cases hsome

theorem featureless_of_type {x : LedgerEntry} (h : x.type ≠ .recoveryPlanned) : Featureless x :=
  fun htype => absurd htype h

/-- The operation appends entries of the kind at most. -/
def Appends (P : LedgerEntry → Prop) : ServiceOp → Prop
  | .ledgerAppend e => P e
  | _ => True

section

variable {σ α : Type} {env : Env σ}

/-- What a program appends is of the kind that its operations append. -/
theorem appended_of_appends {P : LedgerEntry → Prop} {p : Async α} (hp : p.Uses (Appends P))
    (w : World σ) : Appended w.ledger P (p.exec (World.handle env) w).2 := by
  refine Prog.exec_inv (Appended w.ledger P) ?_ hp ⟨[], (List.append_nil _).symm, by simp⟩
  rintro o w' ho ⟨added, hw, hadded⟩
  cases o with
  | ledgerAppend e =>
    refine ⟨added ++ [e], ?_, ?_⟩
    · rw [← List.append_assoc, ← hw]
      rfl
    · intro y hy
      rcases List.mem_append.1 hy with hy | hy
      · exact hadded y hy
      · rw [List.mem_singleton.1 hy]
        exact ho
  | attemptCharge a i m k =>
    refine ⟨added, ?_, hadded⟩
    simp only [World.handle]
    split <;> exact hw
  | _ => exact ⟨added, hw, hadded⟩

end

theorem appendNow_featureless (merchantId : String) {type : LedgerEventType} {detail : Record}
    (h : type = .recoveryPlanned → detail.get "features" = none) :
    (appendNow merchantId type detail).Uses (Appends Featureless) :=
  ⟨trivial, fun _ => ⟨h, fun _ => trivial⟩⟩

/-- The entries of a case that are no plans carry no features. -/
theorem CaseOp.featureless {s : RecoveryCaseService} {invoice : Invoice}
    {types : List LedgerEventType} {attempt : Option ℕ} (h : .recoveryPlanned ∉ types)
    (o : ServiceOp) (ho : CaseOp s invoice types attempt o) : Appends Featureless o := by
  cases o with
  | ledgerAppend e =>
    refine featureless_of_type ?_
    intro htype
    exact h (htype ▸ ho.2.2.1)
  | _ => trivial

namespace RecoveryCaseService

variable (s : RecoveryCaseService)

theorem chargeLive_featureless (adapter : ProcessorAdapter) (invoice : Invoice)
    (method : PaymentMethod) (n : ℕ) (nowIso : Option String) :
    (s.chargeLive adapter invoice method n nowIso).Uses (Appends Featureless) := by
  refine ⟨trivial, fun _ => ⟨trivial, fun _ => ⟨trivial, fun r => ?_⟩⟩⟩
  have hstamp : (stampOr nowIso).Uses (Appends Featureless) := by
    cases nowIso
    · exact ⟨trivial, fun _ => trivial⟩
    · trivial
  refine hstamp.bind fun t => ⟨trivial, fun _ => ?_⟩
  have hrecord : (recordCharge adapter invoice (s.chargeKey invoice method n) n r).Uses
      (Appends Featureless) := by
    refine (appendNow_featureless _ ?_).bind fun _ => ?_
    · intro h
      split at h <;> cases h
    · split
      · refine appendNow_featureless _ ?_
        intro h
        cases h
      · trivial
  refine hrecord.bind fun _ => Prog.Uses.bind ?_ fun _ => trivial
  unfold recordOutcomeNow
  split
  · trivial
  · exact ⟨trivial, fun _ => ⟨trivial, fun _ => trivial⟩⟩

theorem attemptRecovery_featureless (adapter : ProcessorAdapter) (invoice : Invoice)
    (method : PaymentMethod) (proposed : ProposedAction) (n : ℕ) (nowIso : Option String)
    (shadow : Bool) :
    (s.attemptRecovery adapter invoice method proposed n nowIso shadow).Uses
      (Appends Featureless) := by
  unfold attemptRecovery
  split
  · refine (appendNow_featureless _ ?_).bind fun _ => trivial
    intro h
    cases h
  · split
    · refine (appendNow_featureless _ ?_).bind fun _ => trivial
      intro h
      cases h
    · exact (s.chargeLive_featureless adapter invoice method n nowIso).bind fun _ => trivial

theorem chargeFresh_featureless (adapter : ProcessorAdapter) (p : ExecuteParams)
    (features : RecoveryFeatures) (m : PaymentMethod) (via : String) :
    (s.chargeFresh adapter p features m via).Uses (Appends Featureless) := by
  refine (appendNow_featureless _ fun _ => rfl).bind fun _ => ?_
  refine ⟨trivial, fun _ => ⟨trivial, fun _ => ?_⟩⟩
  exact (s.attemptRecovery_featureless adapter p.invoice m _ _ _ _).bind fun _ => trivial

theorem alternateRail_featureless (adapter : ProcessorAdapter) (p : ExecuteParams)
    (features : RecoveryFeatures) (updated : Option PaymentMethod) :
    (s.alternateRail adapter p features updated).Uses (Appends Featureless) := by
  unfold alternateRail
  split
  · trivial
  · refine ⟨trivial, fun methods => ?_⟩
    simp only [Prog.bind]
    split
    · trivial
    · exact (s.chargeFresh_featureless adapter p features _ _).bind fun _ => trivial

theorem executeCredentialRecovery_featureless (adapter : ProcessorAdapter) (p : ExecuteParams)
    (features : RecoveryFeatures) :
    (s.executeCredentialRecovery adapter p features).Uses (Appends Featureless) := by
  refine ⟨trivial, fun updated => ?_⟩
  simp only [Prog.bind]
  split
  · exact s.alternateRail_featureless adapter p features _
  · refine (s.chargeFresh_featureless adapter p features _ _).bind fun o => ?_
    split
    · trivial
    · exact s.alternateRail_featureless adapter p features _

end RecoveryCaseService

/-! ## Plans -/

section

variable {σ α β : Type} (env : Env σ)

/-- The entry is the snapshot of the invoice that the feature store gave, in a world of the trace
    with these entries; before it, only an assignment was appended. -/
structure Planned (invoice : Invoice) (l : List (Performed ServiceSig (World σ)))
    (ledger before : List LedgerEntry) (x : LedgerEntry) : Prop where
  assigned : ∀ y ∈ before, y.type = .holdoutAssigned
  type : x.type = .recoveryPlanned
  invoiceId : x.field "invoiceId" = some (.str invoice.id)
  features : ∃ e ∈ l, ∃ ctx, e.op = .enrich ctx ∧ e.world.ledger = ledger ++ before ∧
    x.field "features" = some (e.world.featureStore.enrich env.featureStore ctx).json

/-- From a world, the program appends one snapshot, of the invoice. -/
def PlansOnce (invoice : Invoice) (p : Async α) (w : World σ) : Prop :=
  ∃ before x after, (p.exec (World.handle env) w).2.ledger = w.ledger ++ (before ++ x :: after) ∧
    Planned env invoice (p.trace (World.handle env) w) w.ledger before x ∧
    ∀ y ∈ after, Featureless y

namespace PlansOnce

variable {env} {invoice : Invoice} {p : Async α} {f : α → Async β} {w w' : World σ}

/-- What follows a plan, and appends no features. -/
theorem bind (hp : PlansOnce env invoice p w) (hf : ∀ a, (f a).Uses (Appends Featureless)) :
    PlansOnce env invoice (p.bind f) w := by
  obtain ⟨before, x, after, hledger, hplanned, hafter⟩ := hp
  have htrace : ∀ e ∈ p.trace (World.handle env) w, e ∈ (p.bind f).trace (World.handle env) w :=
    fun e he => Prog.mem_trace_bind_left he
  obtain ⟨e, he, hfeatures⟩ := hplanned.features
  have hplanned' : Planned env invoice ((p.bind f).trace (World.handle env) w) w.ledger before x :=
    { hplanned with features := ⟨e, htrace e he, hfeatures⟩ }
  rcases hexec : p.exec (World.handle env) w with ⟨_ | a, v⟩
  · refine ⟨before, x, after, ?_, hplanned', hafter⟩
    rw [hexec] at hledger
    rw [Prog.exec_bind, hexec]
    exact hledger
  · rw [hexec] at hledger
    obtain ⟨added, hadded, hquiet⟩ := @appended_of_appends _ _ env _ _ (hf a) v
    refine ⟨before, x, after ++ added, ?_, hplanned', ?_⟩
    · rw [Prog.exec_bind, hexec]
      simp only
      rw [hadded, hledger, List.append_assoc, List.append_assoc, List.cons_append]
    · intro y hy
      rcases List.mem_append.1 hy with hy | hy
      · exact hafter y hy
      · exact hquiet y hy

/-- What comes before a plan, and appends an assignment at most. -/
theorem after {a : α} (hp : p.exec (World.handle env) w = (some a, w'))
    {assigned : List LedgerEntry} (hledger : w'.ledger = w.ledger ++ assigned)
    (hassigned : ∀ y ∈ assigned, y.type = .holdoutAssigned)
    (hf : PlansOnce env invoice (f a) w') : PlansOnce env invoice (p.bind f) w := by
  obtain ⟨before, x, rest, hrest, hplanned, hafter⟩ := hf
  refine ⟨assigned ++ before, x, rest, ?_, ⟨?_, hplanned.type, hplanned.invoiceId, ?_⟩, hafter⟩
  · rw [Prog.exec_bind_of hp, hrest, hledger, List.append_assoc, List.append_assoc]
  · intro y hy
    rcases List.mem_append.1 hy with hy | hy
    · exact hassigned y hy
    · exact hplanned.assigned y hy
  · obtain ⟨e, he, ctx, hop, hworld, hfeatures⟩ := hplanned.features
    refine ⟨e, Prog.mem_trace_bind_right hp he, ctx, hop, ?_, hfeatures⟩
    rw [hworld, hledger, List.append_assoc]

/-- An operation before a plan that leaves the ledger alone. -/
theorem op {o : ServiceOp} {k : o.Res → Async α} {r : o.Res}
    (ho : World.handle env o w = (some r, w')) (hledger : w'.ledger = w.ledger)
    (hk : PlansOnce env invoice (k r) w') :
    PlansOnce env invoice (Prog.op (S := ServiceSig) o k) w := by
  have hledger' : w'.ledger = w.ledger ++ [] := by rw [List.append_nil, hledger]
  refine after (p := Prog.perform o) (a := r) ?_ hledger' ?_ hk
  · rw [Prog.perform, Prog.exec_op_of ho]
    rfl
  · intro y hy
    cases hy

end PlansOnce

theorem planAttempt_plansOnce (invoice : Invoice) (method : Option PaymentMethod)
    (decline : Option DeclineEvent) (n : ℕ) (w : World σ) :
    PlansOnce env invoice (RecoveryCaseService.planAttempt invoice method decline n) w := by
  refine ⟨[], _, [], rfl, ⟨?_, rfl, rfl, ?_⟩, ?_⟩
  · intro y hy
    cases hy
  · exact ⟨_, List.mem_cons_of_mem _ List.mem_cons_self, _, rfl, (List.append_nil _).symm, rfl⟩
  · intro y hy
    cases hy

variable (s : RecoveryCaseService)

/-- An execution plans the attempt, and appends no features after that. -/
theorem executeRecovery_plansOnce (adapter : ProcessorAdapter) (p : ExecuteParams) (w : World σ) :
    PlansOnce env p.invoice (s.executeRecovery adapter p) w := by
  have heq : s.executeRecovery adapter p = (do
      let features ← RecoveryCaseService.featuresFor p.invoice p.method.bin p.decline
        p.attemptNumber p.customer
      let credWin ← call (.credentialWindow (credentialKey p.invoice.id p.method) p.nowIso)
      let now ← newDateIso
      let decision ← call (.decide features
        { now, methods := [RecoveryCaseService.availableMethod p.method],
          compliance := some ⟨credWin.attemptsInWindow,
            defaultGuardrailPolicy.networkCaps.map fun caps =>
              (caps (mapCardNetwork p.method.brand)).maxAttemptsPerWindow, none⟩ })
      appendNow p.invoice.merchantId .recoveryPlanned
        [("invoiceId", .str p.invoice.id), ("action", .str decision.action.text),
          ("retryAt", (decision.retryAt.map .str).getD .null),
          ("expectedValueMinor", .num decision.expectedValueMinor),
          ("rationale", .str decision.rationale), ("features", features.json),
          ("shadow", .bool p.shadow)]
      return (features, credWin, decision) :
        Async (RecoveryFeatures × CredentialAttemptWindow × RecoveryDecision)).bind
      (fun (features, credWin, decision) => do
        if decision.action ≠ .retry then
          if decision.action = .cardUpdateComms ∧ !p.shadow then
            if ← s.executeCredentialRecovery adapter p features then
              return ⟨.attempted, some .succeeded, decision⟩
            else s.concludeWithoutRetry adapter p features decision
          else s.concludeWithoutRetry adapter p features decision
        else s.retryCharge adapter p features credWin decision) := rfl
  rw [heq]
  refine PlansOnce.bind ?_ ?_
  · refine ⟨[], _, [], rfl, ⟨?_, rfl, rfl, ?_⟩, ?_⟩
    · intro y hy
      cases hy
    · exact ⟨_, List.mem_cons_of_mem _ List.mem_cons_self, _, rfl, (List.append_nil _).symm, rfl⟩
    · intro y hy
      cases hy
  · rintro ⟨features, credWin, decision⟩
    have conclude : (s.concludeWithoutRetry adapter p features decision).Uses
        (Appends Featureless) :=
      (s.concludeWithoutRetry_uses adapter p features decision).imp
        (CaseOp.featureless (by decide))
    dsimp only
    split
    · split
      · refine (s.executeCredentialRecovery_featureless adapter p features).bind fun ok => ?_
        split
        · trivial
        · exact conclude
      · exact conclude
    · refine (RecoveryCaseService.localHourOr_uses trivial _).bind fun h => ?_
      refine (s.attemptRecovery_featureless adapter p.invoice p.method _ _ _ _).bind fun e => ?_
      exact (RecoveryCaseService.learnOnline_uses (fun _ _ _ => trivial) _ _ _ _).bind
        fun _ => trivial

/-- A failure that is assigned to treatment is planned. -/
theorem handleFailure_plansOnce (event : CanonicalEvent) {payload : FailurePayload}
    {invoice : Invoice} {a : Assignment} (ha : s.assignmentOf invoice payload.decline = .ok a)
    (htreated : a.bucket = .treatment) (w : World σ) :
    PlansOnce env invoice (s.handleFailure event payload invoice) w := by
  have hopen := (openCase_runs s env ha event.occurredAt w).ends
  rw [htreated] at hopen
  refine PlansOnce.after hopen rfl ?_ ?_
  · intro y hy
    split at hy
    · cases hy
    · rw [List.mem_singleton.1 hy]
      rfl
  · refine PlansOnce.op (o := .observe _ _ _ _) rfl rfl ?_
    refine PlansOnce.op (o := .recordFailure _ _ _ _) rfl rfl ?_
    refine PlansOnce.op (o := .attemptsGet _) rfl rfl ?_
    refine PlansOnce.bind (planAttempt_plansOnce env invoice none payload.decline _ _) ?_
    intro decision
    cases payload.method with
    | none => trivial
    | some method =>
      dsimp only
      split
      · exact ⟨trivial, fun _ => trivial⟩
      · trivial

/-- A failure that is not assigned to treatment appends no features. -/
theorem handleFailure_featureless (event : CanonicalEvent) {payload : FailurePayload}
    {invoice : Invoice}
    (h : ∀ a, s.assignmentOf invoice payload.decline = .ok a → a.bucket ≠ .treatment)
    (w : World σ) :
    Appended w.ledger Featureless
      ((s.handleFailure event payload invoice).exec (World.handle env) w).2 := by
  cases ha : s.assignmentOf invoice payload.decline with
  | error message =>
    rw [(handleFailure_rejected s env event ha w).ends]
    exact ⟨[], (List.append_nil _).symm, by simp⟩
  | ok a =>
    have hcontrol : a.bucket = .control := by
      cases hb : a.bucket with
      | control => rfl
      | treatment => exact absurd hb (h a ha)
    have hopen := (openCase_runs s env ha event.occurredAt w).ends
    rw [hcontrol] at hopen
    refine ⟨_, congrArg World.ledger (congrArg Prod.snd (Prog.exec_bind_of hopen _)), ?_⟩
    intro y hy
    split at hy
    · cases hy
    · rw [List.mem_singleton.1 hy]
      refine featureless_of_type ?_
      intro htype
      cases htype

/-- The invoice that a request plans. -/
def Request.planned : Request → Option Invoice
  | .webhook event _ =>
    match event.body with
    | .invoiceFailed payload =>
      match payload.invoice with
      | some invoice =>
        match s.assignmentOf invoice payload.decline with
        | .ok a => if a.bucket = .treatment then some invoice else none
        | .error _ => none
      | none => none
    | _ => none
  | .plan invoice _ _ _ => some invoice
  | .execute _ p => some p.invoice

/-- A request that plans an invoice appends one snapshot, of it; another request appends none. -/
theorem serve_plans (w : World σ) (r : Request) :
    match r.planned s with
    | some invoice => PlansOnce env invoice (s.program r) w
    | none => Appended w.ledger Featureless (serve s env w r) := by
  cases r with
  | plan invoice method decline n =>
    exact (planAttempt_plansOnce env invoice method decline n w).bind fun _ => trivial
  | execute adapter p => exact (executeRecovery_plansOnce env s adapter p w).bind fun _ => trivial
  | webhook event pid =>
    rcases serve_ledger s env w (.webhook event pid) with
      ⟨invoice, types, added, hcase, -, -⟩ | ⟨event', pid', m, hr, hmove⟩ | ⟨hcase, hledger⟩
    · obtain ⟨payload, hbody, hinvoice⟩ : ∃ payload, event.body = .invoiceFailed payload ∧
          payload.invoice = some invoice := by
        cases hb : event.body <;> simp [Request.caseOf, hb] at hcase
        exact ⟨_, rfl, hcase.1⟩
      have hprogram : s.program (.webhook event pid) = s.handleFailure event payload invoice := by
        simp only [RecoveryCaseService.program, RecoveryCaseService.handleEvent, hbody, hinvoice]
      simp only [Request.planned, hbody, hinvoice, serve, hprogram]
      cases ha : s.assignmentOf invoice payload.decline with
      | error message =>
        refine handleFailure_featureless env s event ?_ w
        intro a ha'
        rw [ha] at ha'
        cases ha'
      | ok a =>
        dsimp only
        split_ifs with htreated
        · exact handleFailure_plansOnce env s event ha htreated w
        · refine handleFailure_featureless env s event ?_ w
          intro a' ha'
          rw [ha] at ha'
          obtain rfl := Except.ok.inj ha'
          exact htreated
    · obtain ⟨rfl, rfl⟩ := Request.webhook.inj hr
      have hplanned : (Request.webhook event pid).planned s = none := by
        rcases EventBody.move_eq_some hmove with ⟨p, hb, -⟩ | ⟨p, hb, -⟩
        all_goals simp only [Request.planned, hb]
      rw [hplanned, serve_move s env w pid hmove]
      dsimp only
      split_ifs with hcap
      · exact ⟨[], (List.append_nil _).symm, by simp⟩
      · refine ⟨_, rfl, ?_⟩
        intro y hy
        rw [List.mem_singleton.1 hy]
        refine featureless_of_type ?_
        rcases EventBody.move_eq_some hmove with ⟨p, -, rfl⟩ | ⟨p, -, rfl⟩
        all_goals
          intro htype
          cases htype
    · have hplanned : (Request.webhook event pid).planned s = none := by
        cases hb : event.body with
        | invoiceFailed payload =>
          cases hi : payload.invoice with
          | none => simp only [Request.planned, hb, hi]
          | some invoice => simp [Request.caseOf, hb, hi] at hcase
        | _ => simp only [Request.planned, hb]
      rw [hplanned]
      exact ⟨[], by rw [hledger, List.append_nil], by simp⟩

end

/-! ## Runs -/

section

variable {σ : Type} (s : RecoveryCaseService) (env : Env σ)

/-- What is performed while requests are served one after the other. -/
def performedAll (w : World σ) : List Request → List (Performed ServiceSig (World σ))
  | [] => []
  | r :: rs => (s.program r).trace (World.handle env) w ++ performedAll (serve s env w r) rs

theorem mem_performedAll {w : World σ} {pre post : List Request} {r : Request}
    {e : Performed ServiceSig (World σ)}
    (he : e ∈ (s.program r).trace (World.handle env) (serveAll s env w pre)) :
    e ∈ performedAll s env w (pre ++ r :: post) := by
  induction pre generalizing w with
  | nil => exact List.mem_append_left _ he
  | cons r' pre ih => exact List.mem_append_right _ (ih he)

/-- The ledger is appended to. -/
theorem serve_ledger_grows (w : World σ) (r : Request) : w.ledger <+: (serve s env w r).ledger := by
  have h := serve_plans env s w r
  split at h
  · obtain ⟨before, x, after, hledger, -⟩ := h
    exact ⟨_, hledger.symm⟩
  · obtain ⟨added, hledger, -⟩ := h
    exact ⟨added, hledger.symm⟩

theorem serveAll_ledger_grows (w : World σ) (rs : List Request) :
    w.ledger <+: (serveAll s env w rs).ledger := by
  induction rs generalizing w with
  | nil => exact List.prefix_refl _
  | cons r rs ih => exact (serve_ledger_grows s env w r).trans (ih _)

/-- An entry of a longer ledger is one of the shorter, or an added one. -/
theorem split_of_append {l added pre post : List LedgerEntry} {x : LedgerEntry}
    (h : l ++ added = pre ++ x :: post) :
    (∃ mid, l = pre ++ x :: mid) ∨ ∃ mid, pre = l ++ mid ∧ added = mid ++ x :: post := by
  rcases List.append_eq_append_iff.1 h with ⟨mid, hpre, hadded⟩ | ⟨mid, hl, hrest⟩
  · exact .inr ⟨mid, hpre, hadded⟩
  · cases mid with
    | nil =>
      refine .inr ⟨[], ?_, hrest.symm⟩
      rw [hl, List.append_nil, List.append_nil]
    | cons y mid =>
      obtain ⟨rfl, -⟩ := List.cons.inj hrest
      exact .inl ⟨mid, hl⟩

/-- The only snapshot among the entries of a plan is the planned one. -/
theorem Planned.split_eq {invoice : Invoice} {l : List (Performed ServiceSig (World σ))}
    {ledger before after pre post : List LedgerEntry} {x x' : LedgerEntry} {i : String}
    (h : Planned env invoice l ledger before x) (hafter : ∀ y ∈ after, Featureless y)
    (hx' : SnapshotOf i x') (heq : before ++ x :: after = pre ++ x' :: post) :
    before = pre ∧ x = x' ∧ invoice.id = i := by
  have hbefore : x' ∉ before := by
    intro hmem
    have htype := h.assigned x' hmem
    rw [hx'.1] at htype
    cases htype
  have hlast : x' ∉ after := fun hmem => (hafter x' hmem).not_snapshot i hx'
  obtain ⟨hpre, rfl, -⟩ := (List.append_cons_inj_of_notMem hbefore hlast).1 heq
  refine ⟨hpre, rfl, ?_⟩
  have hfield := (LedgerEntry.isFor_iff x i).1 hx'.2.1
  rw [h.invoiceId] at hfield
  exact Json.str.inj (Option.some.inj hfield)

/-- A snapshot was entered by a request that plans its invoice, after the entries of the requests
    before and an assignment at most. -/
theorem snapshot_entered {policy : σ} {clock : ℕ → ℤ} {rs : List Request}
    {pre post : List LedgerEntry} {x : LedgerEntry} {i : String}
    (hledger : (serveAll s env (World.init policy clock) rs).ledger = pre ++ x :: post)
    (hx : SnapshotOf i x) :
    ∃ rs₀ r rs₁ invoice before, rs = rs₀ ++ r :: rs₁ ∧ r.planned s = some invoice ∧
      invoice.id = i ∧ pre = (serveAll s env (World.init policy clock) rs₀).ledger ++ before ∧
      Planned env invoice
        ((s.program r).trace (World.handle env) (serveAll s env (World.init policy clock) rs₀))
        (serveAll s env (World.init policy clock) rs₀).ledger before x := by
  induction rs using List.reverseRecOn generalizing post with
  | nil =>
    have hnil : ([] : List LedgerEntry) = pre ++ x :: post := hledger
    cases pre <;> cases hnil
  | append_singleton rs r ih =>
    rw [serveAll_append, serveAll_cons, serveAll_nil] at hledger
    have hserve := serve_plans env s (serveAll s env (World.init policy clock) rs) r
    obtain ⟨added, hadded⟩ := serve_ledger_grows s env
      (serveAll s env (World.init policy clock) rs) r
    rw [← hadded] at hledger
    rcases split_of_append hledger with ⟨mid, hmid⟩ | ⟨mid, hpre, hmid⟩
    · obtain ⟨rs₀, r', rs₁, invoice, before, hrs, h⟩ := ih hmid
      refine ⟨rs₀, r', rs₁ ++ [r], invoice, before, ?_, h⟩
      rw [hrs, List.append_assoc, List.cons_append]
    · cases hp : r.planned s with
      | none =>
        rw [hp] at hserve
        obtain ⟨added', hadded', hquiet⟩ := hserve
        rw [← hadded] at hadded'
        obtain rfl := List.append_cancel_left hadded'
        have hmem : x ∈ added := by
          rw [hmid]
          exact List.mem_append_right _ List.mem_cons_self
        exact absurd hx ((hquiet x hmem).not_snapshot i)
      | some invoice =>
        rw [hp] at hserve
        obtain ⟨before, x', after, hledger', hplanned, hafter⟩ := hserve
        have hadded' : added = before ++ x' :: after :=
          List.append_cancel_left (hadded.trans hledger')
        obtain ⟨rfl, rfl, hi⟩ := hplanned.split_eq env hafter hx (hadded'.symm.trans hmid)
        exact ⟨rs, r, [], invoice, before, rfl, hp, hi, hpre, hplanned⟩

/-! ## Training without leakage -/

/-- No sample of the ledger leaks: its snapshot stands before an outcome that labels it, and was
    given by the feature store at a moment before the snapshot. -/
def LeakageFree (performed : List (Performed ServiceSig (World σ))) (l : List LedgerEntry) : Prop :=
  ∀ weight i sample, (i, sample) ∈ labelled l weight →
    ∃ pre x post, TakenFrom l i sample.features pre x post ∧
      (∃ y ∈ post, LabelOf i sample.recovered y) ∧
      ∃ e ∈ performed, ∃ ctx, e.op = .enrich ctx ∧ e.world.ledger <+: pre ∧
        sample.features = (e.world.featureStore.enrich env.featureStore ctx).json

/-- Every sample leaks nothing, at every moment of the run. -/
def TrainsWithoutLeakage (policy : σ) (clock : ℕ → ℤ) (rs : List Request) : Prop :=
  ∀ l, l <+: (serveAll s env (World.init policy clock) rs).ledger →
    LeakageFree env (performedAll s env (World.init policy clock) rs) l

/-- The request plans no invoice of which the ledger has an outcome. -/
def PlansUndecided (w : World σ) (r : Request) : Prop :=
  ∀ invoice, r.planned s = some invoice → invoice.id ≠ "" →
    ∀ recovered, ∀ y ∈ w.ledger, ¬ LabelOf invoice.id recovered y

variable {s env} {policy : σ} {clock : ℕ → ℤ} {rs : List Request}

/-- Right after an invoice with an outcome is planned, its sample leaks. -/
theorem TrainsWithoutLeakage.plansUndecided (h : TrainsWithoutLeakage s env policy clock rs)
    {pre : List Request} {r : Request} (hpre : pre ++ [r] <+: rs) :
    PlansUndecided s (serveAll s env (World.init policy clock) pre) r := by
  intro invoice hp hi recovered y hy hlabel
  obtain ⟨post, hrs⟩ := hpre
  have hserve := serve_plans env s (serveAll s env (World.init policy clock) pre) r
  rw [hp] at hserve
  obtain ⟨before, x, after, hadded, hplanned, hafter⟩ := hserve
  -- the ledger right after the snapshot
  let l := (serveAll s env (World.init policy clock) pre).ledger ++ before ++ [x]
  have hprefix : l <+: (serveAll s env (World.init policy clock) rs).ledger := by
    rw [← hrs, serveAll_append, serveAll_append]
    refine List.IsPrefix.trans ?_ (serveAll_ledger_grows s env _ post)
    refine ⟨after, ?_⟩
    rw [serveAll_cons, serveAll_nil]
    refine Eq.trans ?_ hadded.symm
    simp only [l, List.append_assoc, List.singleton_append]
  have hx : SnapshotOf invoice.id x := by
    obtain ⟨e, -, ctx, -, -, hfeatures⟩ := hplanned.features
    refine ⟨hplanned.type, (LedgerEntry.isFor_iff _ _).2 hplanned.invoiceId, ?_⟩
    rw [hfeatures]
    rfl
  have hxl : x ∈ l := List.mem_append_right _ (List.mem_singleton_self x)
  have hyl : y ∈ l := List.mem_append_left _ (List.mem_append_left _ hy)
  obtain ⟨sample, hsample⟩ := exists_labelled hi true ⟨x, hxl, hx⟩ ⟨y, hyl, hlabel⟩
  obtain ⟨pre', x', post', htaken, ⟨z, hz, -⟩, -⟩ := h l hprefix true _ _ hsample
  -- the last entry is a snapshot, so none is taken before it
  have hlast : x ∈ post' := by
    have hend : post'.getLast? = some x := by
      have hconcat : l.getLast? = some x := List.getLast?_concat
      rw [htaken.split, List.append_cons, List.getLast?_append_of_ne_nil _ (List.ne_nil_of_mem hz)]
        at hconcat
      exact hconcat
    exact List.mem_of_getLast? hend
  exact htaken.last x hlast hx

/-- A snapshot that is entered before its invoice has an outcome does not leak. -/
theorem trainsWithoutLeakage_of (h : ∀ pre r, pre ++ [r] <+: rs →
    PlansUndecided s (serveAll s env (World.init policy clock) pre) r) :
    TrainsWithoutLeakage s env policy clock rs := by
  rintro l ⟨rest, hl⟩ weight i sample hsample
  obtain ⟨hi, ⟨pre, x, post, htaken⟩, y, hy, hlabel⟩ := takenFrom_of_labelled hsample
  have hledger : (serveAll s env (World.init policy clock) rs).ledger =
      pre ++ x :: (post ++ rest) := by
    rw [← hl, htaken.split, List.append_assoc, List.cons_append]
  obtain ⟨rs₀, r, rs₁, invoice, before, hrs, hp, rfl, hpre, hplanned⟩ :=
    snapshot_entered s env hledger htaken.snapshot
  refine ⟨pre, x, post, htaken, ⟨y, ?_, hlabel⟩, ?_⟩
  · rw [htaken.split] at hy
    rcases List.mem_append.1 hy with hy | hy
    · -- an outcome before the snapshot stands before the plan
      rw [hpre] at hy
      rcases List.mem_append.1 hy with hy | hy
      · refine absurd hlabel (h rs₀ r ⟨rs₁, ?_⟩ invoice hp hi sample.recovered y hy)
        rw [hrs, List.append_assoc, List.singleton_append]
      · have htype := hplanned.assigned y hy
        rw [hlabel.1] at htype
        split at htype <;> cases htype
    · rcases List.mem_cons.1 hy with rfl | hy
      · exact absurd htaken.snapshot (hlabel.not_snapshot _)
      · exact hy
  · obtain ⟨e, he, ctx, hop, hworld, hfeatures⟩ := hplanned.features
    refine ⟨e, ?_, ctx, hop, ?_, ?_⟩
    · rw [hrs]
      exact mem_performedAll s env he
    · rw [hworld, hpre]
    · have hfield := htaken.features
      rw [hfeatures] at hfield
      exact (Option.some.inj hfield).symm

variable (s env)

/-- In a run no sample leaks at any moment, if and only if no request plans an invoice of which the
    ledger has an outcome. -/
theorem trainsWithoutLeakage_iff (policy : σ) (clock : ℕ → ℤ) (rs : List Request) :
    TrainsWithoutLeakage s env policy clock rs ↔ ∀ pre r, pre ++ [r] <+: rs →
      PlansUndecided s (serveAll s env (World.init policy clock) pre) r := by
  constructor
  · intro h pre r hpre
    exact h.plansUndecided hpre
  · intro h
    exact trainsWithoutLeakage_of h

end

/-! ## Runs that leak -/

namespace Sample

/-- The sample invoice fails. -/
def failure : Request :=
  .webhook (event "fail_1" (.invoiceFailed
    { invoice := some invoice, decline := some decline })) none

/-- The sample invoice fails and is recovered. -/
def failedThenCharged : List Request := [failure, .execute stripe attempt]

/-- The sample invoice is charged, and declined. -/
def chargeDeclined : List Request := [.execute (declining .insufficientFunds) attempt]

end Sample

/-- A failure that is delivered again after the recovery leaks, and so does the next plan of a saga
    whose charge was declined. -/
theorem trainsWithoutLeakage_fails :
    ¬ TrainsWithoutLeakage Sample.service Sample.env () (fun _ => 1786881600000)
        (Sample.failedThenCharged ++ [Sample.failure]) ∧
      ¬ TrainsWithoutLeakage Sample.service Sample.env () (fun _ => 1786881600000)
        (Sample.chargeDeclined ++
          [.plan Sample.invoice (some Sample.method) (some Sample.decline) 2]) := by
  constructor
  · intro h
    have hplans := h.plansUndecided (List.prefix_refl _)
    obtain ⟨y, hy, hlabel⟩ : ∃ y ∈ (serveAll Sample.service Sample.env
        (World.init () fun _ => 1786881600000) Sample.failedThenCharged).ledger,
        LabelOf Sample.invoice.id true y := by decide +kernel
    exact hplans Sample.invoice (by decide +kernel) (by decide) true y hy hlabel
  · intro h
    have hplans := h.plansUndecided (List.prefix_refl _)
    obtain ⟨y, hy, hlabel⟩ : ∃ y ∈ (serveAll Sample.service Sample.env
        (World.init () fun _ => 1786881600000) Sample.chargeDeclined).ledger,
        LabelOf Sample.invoice.id false y := by decide +kernel
    exact hplans Sample.invoice rfl (by decide) false y hy hlabel

end AX10M
