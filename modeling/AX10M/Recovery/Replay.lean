/-
  Executions cut off by a crash and run again.

  The workflow engine runs an execution again, with the same attempt number and the
  same time, until it completes; the ledger, the counters of the credentials and the
  charges at the processor persist.  The replay asks the policy and the guardrail
  again, on counters that the run before it may have moved.  `Chargeable` says
  whether they let a charge through that the processor answers with success, and
  `Replayable` that they do so exactly when the attempt still is to be recorded.
-/
import AX10M.Recovery.Charging

namespace AX10M

open Js Effects

/-! ## The processor and the counters -/

/-- A charge that did not succeed leaves the answers of the processor as they are. -/
theorem processorCharge_append {l : List ChargeCall} {c : ChargeCall}
    (hc : c.result.outcome ≠ .succeeded) (adapter : ProcessorAdapter) (invoice : Invoice)
    (m : PaymentMethod) (key : String) :
    processorCharge (l ++ [c]) adapter invoice m key = processorCharge l adapter invoice m key := by
  simp [processorCharge, settled_append, hc]

/-- What a window reads of a count is the saga's time, if it has one, and nothing else. -/
theorem credentialWindow_stamp {nowIso : Option String} {t : String} (ht : ∀ t' ∈ nowIso, t' = t)
    (counts : Map String CredentialCount) (key key' : String) :
    credentialWindow (credentialIncrement counts key t) key' nowIso =
      credentialWindow (credentialIncrement counts key (nowIso.getD "")) key' nowIso := by
  cases nowIso with
  | none =>
    by_cases hk : key' = key
    · subst hk
      simp [credentialWindow, credentialIncrement, truthy]
    · simp [credentialWindow, credentialIncrement, Map.get_set_ne _ hk]
  | some t' =>
    obtain rfl := ht t' rfl
    rfl

theorem minutesBetween_self {t : String} {ms : ℤ} (ht : Date.parse t = some ms) :
    minutesBetween t t = some 0 := by
  simp [minutesBetween, ht]

section

variable (s : RecoveryCaseService) (p : ExecuteParams)

/-! ## An attempt -/

/-- The entry is about the attempt. -/
def IsAttempt (e : LedgerEntry) : Bool :=
  e.isFor p.invoice.id && decide (num (e.field "attemptNumber") = p.attemptNumber)

/-- The recoveries recorded for the attempt. -/
def recorded (recoveries : List LedgerEntry) : ℕ := (recoveries.filter (IsAttempt p)).length

/-- The processor collected the payment in the attempt. -/
def Collected (charges : List ChargeCall) : Prop :=
  ∃ m, settled charges (s.chargeKey p.invoice m p.attemptNumber) = true

/-- A charge of the method is answered with success. -/
def Succeeds (adapter : ProcessorAdapter) (m : PaymentMethod) (charges : List ChargeCall) : Prop :=
  ∃ c, processorCharge charges adapter p.invoice m (s.chargeKey p.invoice m p.attemptNumber) =
    some c ∧ c.result.outcome = .succeeded

theorem recorded_append {recoveries : List LedgerEntry} {processor : String} {e : LedgerEntry}
    (he : IsRecovery p.invoice processor p.attemptNumber e) :
    recorded p (recoveries ++ [e]) = recorded p recoveries + 1 := by
  obtain ⟨t, rfl⟩ := he
  simp [recorded, IsAttempt, LedgerEntry.isFor, LedgerEntry.field, recoveredDetail,
    Record.get_cons]

theorem collected_append {charges : List ChargeCall} (c : ChargeCall)
    (h : Collected s p charges) : Collected s p (charges ++ [c]) := by
  obtain ⟨m, hm⟩ := h
  exact ⟨m, by simp [settled_append, hm]⟩

theorem collected_of_success {charges : List ChargeCall} {adapter : ProcessorAdapter}
    {m : PaymentMethod} {c : ChargeCall}
    (hc : processorCharge charges adapter p.invoice m
      (s.chargeKey p.invoice m p.attemptNumber) = some c)
    (ho : c.result.outcome = .succeeded) : Collected s p (charges ++ [c]) :=
  ⟨m, by simp [settled_append, ho, (processorCharge_invoice hc).2]⟩

theorem collected_append_iff {charges : List ChargeCall} {c : ChargeCall}
    (ho : c.result.outcome ≠ .succeeded) :
    Collected s p (charges ++ [c]) ↔ Collected s p charges := by
  simp [Collected, settled_append, ho]

/-! ## What an execution does to the attempt -/

/-- The execution recorded the attempt. -/
def Won (b b' : Books) : Prop :=
  recorded p b'.recoveries = recorded p b.recoveries + 1 ∧ Collected s p b'.charges

/-- The execution changed nothing about the attempt. -/
def Same (b b' : Books) : Prop :=
  recorded p b'.recoveries = recorded p b.recoveries ∧
    (Collected s p b'.charges ↔ Collected s p b.charges)

/-- The execution was cut off: it recorded the attempt, which takes a charge that was let through
    and succeeded, or not. -/
def Partway (hit : Prop) (b b' : Books) : Prop :=
  (recorded p b'.recoveries = recorded p b.recoveries ∧
    (Collected s p b.charges → Collected s p b'.charges)) ∨ hit ∧ Won s p b b'

/-- What a completed execution did, by whether a charge was let through and succeeded. -/
def Effect (hit : Prop) (b b' : Books) : Prop := (hit → Won s p b b') ∧ (¬ hit → Same s p b b')

theorem Same.refl (b : Books) : Same s p b b := ⟨rfl, Iff.rfl⟩

variable {s p}

theorem Same.partway {hit : Prop} {b b' : Books} (h : Same s p b b') : Partway s p hit b b' :=
  .inl ⟨h.1, h.2.2⟩

/-- A charge that is let through and succeeds records the attempt; any other changes nothing
    about it. -/
theorem tried_hits {adapter : ProcessorAdapter} {m : PaymentMethod} {allowed : Bool} {hit : Prop}
    {b₀ b : Books} {Q : Option ChargeOutcome → Books → Prop} (hb : Same s p b₀ b)
    (hhit : allowed → Succeeds s p adapter m b.charges → hit)
    (hwon : allowed → Succeeds s p adapter m b.charges → ∀ b', Won s p b₀ b' →
      Q (some .succeeded) b')
    (hfailed : allowed → ¬ Succeeds s p adapter m b.charges → ∀ c t,
      c.result.outcome ≠ .succeeded → (∀ t' ∈ p.nowIso, t' = t) →
      Q (some c.result.outcome) ((b.charge c).count (credentialKey p.invoice.id m) t))
    (hblocked : ¬ allowed → Q none b) :
    Tried s allowed adapter p.invoice m p.attemptNumber p.nowIso (Partway s p hit b₀)
      (Partway s p hit b₀) Q b := by
  unfold Tried
  split
  next ha =>
    refine ⟨hb.partway, hb.partway, fun c hc => ?_⟩
    have charged : Partway s p hit b₀ (b.charge c) :=
      .inl ⟨hb.1, fun h => collected_append s p c (hb.2.2 h)⟩
    refine ⟨charged, fun t ht => ⟨charged, fun ho => ?_, fun ho e he => ?_⟩⟩
    · refine hfailed ha ?_ c t ho ht
      rintro ⟨c', hc', ho'⟩
      rw [hc, Option.some.injEq] at hc'
      exact ho (hc' ▸ ho')
    · have hs : Succeeds s p adapter m b.charges := ⟨c, hc, ho⟩
      have won : Won s p b₀ (((b.charge c).count (credentialKey p.invoice.id m) t).recover e) :=
        ⟨by rw [← hb.1]; exact recorded_append p he, collected_of_success s p hc ho⟩
      exact ⟨.inr ⟨hhit ha hs, won⟩, hwon ha hs _ won⟩
  next ha => exact ⟨hb.partway, hblocked ha⟩

section

variable (s p) (adapter : ProcessorAdapter)

/-- The guardrail lets a charge of the fresh credential through, and the processor answers it with
    success. -/
def ChargeableFresh (b : Books) (m : PaymentMethod) : Prop :=
  freshAllowed p.attemptNumber m
    (credentialWindow b.credentials (credentialKey p.invoice.id m) p.nowIso) ∧
  Succeeds s p adapter m b.charges

/-- The books a backup method is charged on, once the refreshed card did not succeed. -/
def afterRefresh (b : Books) (u : PaymentMethod) : Books :=
  if freshAllowed p.attemptNumber u
      (credentialWindow b.credentials (credentialKey p.invoice.id u) p.nowIso) then
    b.count (credentialKey p.invoice.id u) (p.nowIso.getD "")
  else b

/-- A charge of the backup method is let through and succeeds. -/
def ChargeableBackup (b : Books) : Prop :=
  ∃ m ∈ backupOf adapter p (updatedOf adapter p), ChargeableFresh s p adapter b m

/-- An execution whose decision is the action charges a method that the guardrail lets through and
    that the processor answers with success. -/
def Chargeable (action : RecoveryActionKind) (b : Books) : Prop :=
  match action with
  | .retry => (retryAllowed p (codeOf p) (credentialWindow b.credentials
      (credentialKey p.invoice.id p.method) p.nowIso) && !p.shadow) = true ∧
      Succeeds s p adapter p.method b.charges
  | .cardUpdateComms => p.shadow = false ∧
    match RecoveryCaseService.refreshed p (updatedOf adapter p) with
    | none => ChargeableBackup s p adapter b
    | some u => ChargeableFresh s p adapter b u ∨ ChargeableBackup s p adapter (afterRefresh p b u)
  | .suppress => False

end

variable {adapter : ProcessorAdapter}

theorem Effect.partway {hit : Prop} {b b' : Books} (h : Effect s p hit b b') :
    Partway s p hit b b' := by
  by_cases hh : hit
  · exact .inr ⟨hh, h.1 hh⟩
  · exact (h.2 hh).partway

/-- A charge that did not succeed, counted or not, changes nothing about the attempt. -/
theorem Same.failed {b₀ b : Books} (hb : Same s p b₀ b) {c : ChargeCall}
    (hc : c.result.outcome ≠ .succeeded) (key t : String) :
    Same s p b₀ ((b.charge c).count key t) :=
  ⟨hb.1, (collected_append_iff s p hc).trans hb.2⟩

theorem triedBackup_hits {hit : Prop} {b₀ b : Books} {Q : Bool → Books → Prop}
    (hb : Same s p b₀ b) (hhit : ChargeableBackup s p adapter b → hit)
    (hwon : ChargeableBackup s p adapter b → ∀ b', Won s p b₀ b' → Q true b')
    (hlost : ¬ ChargeableBackup s p adapter b → ∀ b', Same s p b₀ b' → Q false b') :
    TriedBackup s adapter p (backupOf adapter p (updatedOf adapter p)) (Partway s p hit b₀)
      (Partway s p hit b₀) Q b := by
  refine ⟨hb.partway, ?_⟩
  unfold ChargeableBackup at hhit hwon hlost
  cases hm : backupOf adapter p (updatedOf adapter p) with
  | none =>
    simp only [hm] at hlost
    exact hlost (by simp) b hb
  | some m =>
    simp only [hm, Option.mem_some_iff, exists_eq_left'] at hhit hwon hlost
    refine ⟨hb.partway, tried_hits hb (fun ha hs => hhit ⟨ha, hs⟩) (fun ha hs b' hw => ?_) ?_ ?_⟩
    · simpa using hwon ⟨ha, hs⟩ b' hw
    · intro ha hs c t ho _
      simpa [ho] using hlost (fun h => hs h.2) _ (hb.failed ho (credentialKey p.invoice.id m) t)
    · intro ha
      simpa using hlost (fun h => ha h.1) b hb

theorem chargeableBackup_congr {b b' : Books}
    (hw : ∀ key, credentialWindow b.credentials key p.nowIso =
      credentialWindow b'.credentials key p.nowIso)
    (hc : ∀ m, Succeeds s p adapter m b.charges ↔ Succeeds s p adapter m b'.charges) :
    ChargeableBackup s p adapter b ↔ ChargeableBackup s p adapter b' := by
  simp only [ChargeableBackup, ChargeableFresh, hw, hc]

/-- An execution records the attempt exactly if it charges a method that is let through and
    succeeds; wherever it is cut off, it recorded the attempt at most once, and only then. -/
theorem executed_hits (action : RecoveryActionKind) (b : Books) :
    Executed s adapter p action (Partway s p (Chargeable s p adapter action b) b)
      (Partway s p (Chargeable s p adapter action b) b)
      (fun _ => Effect s p (Chargeable s p adapter action b) b) b := by
  have hb : Same s p b b := Same.refl s p b
  refine ⟨hb.partway, ?_⟩
  cases action with
  | suppress => exact ⟨hb.partway, fun h => h.elim, fun _ => hb⟩
  | retry =>
    refine tried_hits hb (fun ha hs => ⟨ha, hs⟩) (fun ha hs b' hw => ?_) ?_ ?_
    · exact ⟨fun _ => hw, fun hn => absurd ⟨ha, hs⟩ hn⟩
    · intro ha hs c t ho _
      exact ⟨fun h => absurd h.2 hs, fun _ => hb.failed ho _ t⟩
    · intro ha
      exact ⟨fun h => absurd h.1 ha, fun _ => hb⟩
  | cardUpdateComms =>
    simp only []
    split
    next hs =>
      exact ⟨hb.partway, fun h => absurd h.1 (by simp [hs]), fun _ => hb⟩
    next hs =>
      have hs : p.shadow = false := by simpa using hs
      refine ⟨hb.partway, ?_⟩
      -- the ends of the path: a success returns, anything else concludes without a retry
      have lost : ∀ {hit : Prop} {b'}, ¬ hit → Same s p b b' → Partway s p hit b b' ∧
          Partway s p hit b b' ∧ Effect s p hit b b' :=
        fun hn h => ⟨h.partway, h.partway, fun hh => absurd hh hn, fun _ => h⟩
      cases hu : RecoveryCaseService.refreshed p (updatedOf adapter p) with
      | none =>
        have hiff : Chargeable s p adapter .cardUpdateComms b ↔ ChargeableBackup s p adapter b := by
          simp [Chargeable, hs, hu]
        refine triedBackup_hits hb hiff.2 (fun h b' hw => ?_) fun h b' hw => ?_
        · exact ⟨fun _ => hw, fun hn => absurd (hiff.2 h) hn⟩
        · exact lost (fun hh => h (hiff.1 hh)) hw
      | some u =>
        have hiff : Chargeable s p adapter .cardUpdateComms b ↔ ChargeableFresh s p adapter b u ∨
            ChargeableBackup s p adapter (afterRefresh p b u) := by
          simp [Chargeable, hs, hu]
        refine ⟨hb.partway, tried_hits hb (fun ha hc => hiff.2 (.inl ⟨ha, hc⟩))
          (fun ha hc b' hw => ?_) ?_ ?_⟩
        · rw [if_pos rfl]
          exact ⟨fun _ => hw, fun hn => absurd (hiff.2 (.inl ⟨ha, hc⟩)) hn⟩
        · intro ha hc c t ho ht
          rw [if_neg (by simpa using ho)]
          have hcongr : ChargeableBackup s p adapter
              ((b.charge c).count (credentialKey p.invoice.id u) t) ↔
              ChargeableBackup s p adapter (afterRefresh p b u) := by
            rw [afterRefresh, if_pos ha]
            refine chargeableBackup_congr (fun key => credentialWindow_stamp ht _ _ _) fun m => ?_
            simp [Succeeds, processorCharge_append ho]
          refine triedBackup_hits (hb.failed ho _ t) (fun h => hiff.2 (.inr (hcongr.1 h)))
            (fun h b' hw => ?_) fun h b' hw => ?_
          · exact ⟨fun _ => hw, fun hn => absurd (hiff.2 (.inr (hcongr.1 h))) hn⟩
          · refine lost (fun hh => ?_) hw
            rcases hiff.1 hh with hf | hf
            · exact hc hf.2
            · exact h (hcongr.2 hf)
        · intro ha
          rw [if_neg (by simp)]
          have hafter : afterRefresh p b u = b := by rw [afterRefresh, if_neg ha]
          rw [hafter] at hiff
          refine triedBackup_hits hb (fun h => hiff.2 (.inr h)) (fun h b' hw => ?_)
            fun h b' hw => ?_
          · exact ⟨fun _ => hw, fun hn => absurd (hiff.2 (.inr h)) hn⟩
          · refine lost (fun hh => ?_) hw
            rcases hiff.1 hh with hf | hf
            · exact ha hf.1
            · exact h hf

/-! ## Replays -/

section

variable (s) {σ : Type} (env : Env σ) (p) (adapter)

/-- What a crash does not touch. -/
structure Persisted (w w' : World σ) : Prop where
  ledger : w'.ledger = w.ledger
  credentialAttempts : w'.credentialAttempts = w.credentialAttempts
  charges : w'.charges = w.charges

/-- An execution that starts from the world charges with success a method that is let through, if
    the attempt is collected but not recorded, and charges none, if it is recorded. -/
def Replayable (w : World σ) : Prop :=
  (Collected s p w.charges → recorded p w.books.recoveries = 0 →
    Chargeable s p adapter (decisionAt env w p).action w.books) ∧
  (recorded p w.books.recoveries ≠ 0 →
    ¬ Chargeable s p adapter (decisionAt env w p).action w.books)

/-- Exactly one recovery is recorded if the attempt is collected, and none otherwise. -/
def ExactlyOnce (w : World σ) : Prop :=
  (Collected s p w.charges → recorded p w.books.recoveries = 1) ∧
  (¬ Collected s p w.charges → recorded p w.books.recoveries = 0)

/-- The worlds in which an execution of the attempt starts: at first nothing has been charged in
    it, and then a run was cut off after some of its operations, or ended unnoticed. -/
inductive Attempted : World σ → Prop
  | first {w : World σ} : ¬ Collected s p w.charges → recorded p w.books.recoveries = 0 →
      Attempted w
  | again {w w' : World σ} (adapter : ProcessorAdapter) (n : ℕ) : Attempted w →
      Replayable s p adapter env w →
      Persisted ((s.executeRecovery adapter p).upTo (World.handle env) n w).2 w' → Attempted w'

theorem Persisted.books {w w' : World σ} (h : Persisted w w') : w'.books = w.books := by
  simp only [World.books, h.ledger, h.credentialAttempts, h.charges]

theorem executeRecovery_hits (w : World σ) :
    (s.executeRecovery adapter p).wp (World.handle env)
      (fun _ w' => Effect s p (Chargeable s p adapter (decisionAt env w p).action w.books) w.books
        w'.books)
      (onBooks (Partway s p (Chargeable s p adapter (decisionAt env w p).action w.books) w.books))
      (onBooks (Partway s p (Chargeable s p adapter (decisionAt env w p).action w.books) w.books))
      w :=
  (executeRecovery_wp s env adapter p (executed_hits _ w.books) fun _ _ h => h.partway).imp
    (fun _ _ h => h.2) (fun _ h => h) fun _ h => h

/-- Where an execution starts, the attempt is recorded at most once, and only if collected. -/
theorem attempted_recorded {w : World σ} (h : Attempted s p env w) :
    recorded p w.books.recoveries = 0 ∨
      recorded p w.books.recoveries = 1 ∧ Collected s p w.charges := by
  induction h with
  | first _ hr => exact .inl hr
  | @again w w' adapter n _ hrep hper ih =>
    set w₁ := ((s.executeRecovery adapter p).upTo (World.handle env) n w).2 with hw₁
    have hcut : Partway s p (Chargeable s p adapter (decisionAt env w p).action w.books) w.books
        w₁.books := by
      have h := ((executeRecovery_hits s p adapter env w).imp (fun _ _ h => h.partway)
        (fun _ h => h) fun _ h => h).upTo n
      rw [hw₁]
      split at h <;> simp_all only [onBooks]
    rw [hper.books, show w'.charges = w₁.charges from hper.charges]
    rcases hcut with ⟨hsame, hkeep⟩ | ⟨hhit, hrec, hcol⟩
    · rw [hsame]
      exact ih.imp_right fun h => ⟨h.1, hkeep h.2⟩
    · rcases ih with h0 | ⟨h1, -⟩
      · exact .inr ⟨by rw [hrec, h0], hcol⟩
      · exact absurd hhit (hrep.2 (by simp [h1]))

/-- In every run of cut-off executions that were replayable, an execution that completes leaves
    exactly one recovery if the payment of the attempt is collected, and none otherwise, exactly
    if it is replayable itself. -/
theorem replay_exactly_once {w w' : World σ} (h : Attempted s p env w) {out : ExecuteOutcome}
    (hrun : (s.executeRecovery adapter p).exec (World.handle env) w = (some out, w')) :
    ExactlyOnce s p w' ↔ Replayable s p adapter env w := by
  have hends := (executeRecovery_hits s p adapter env w).exec
  rw [hrun] at hends
  obtain ⟨hwon, hlost⟩ := hends
  simp only [ExactlyOnce, Replayable]
  have hstart := attempted_recorded s p env h
  by_cases hhit : Chargeable s p adapter (decisionAt env w p).action w.books
  · obtain ⟨hrec, hcol⟩ := hwon hhit
    change Collected s p w'.charges at hcol
    simp only [hhit, hcol, hrec]
    simp
  · obtain ⟨hrec, hcol⟩ := hlost hhit
    change Collected s p w'.charges ↔ Collected s p w.charges at hcol
    simp only [hhit, hcol, hrec]
    by_cases hc : Collected s p w.charges
    · rcases hstart with h0 | ⟨h1, -⟩ <;> simp_all
    · rcases hstart with h0 | ⟨-, h1⟩ <;> simp_all

/-! ## Counted attempts -/

theorem credentialWindow_counted {counts : Map String CredentialCount} {key t : String} {n : ℕ}
    {ms : ℤ} (hms : Date.parse t = some ms) (hc : counts.get key = some ⟨n, t⟩) :
    (credentialWindow counts key (some t)).minutesSinceLastAttempt = some (some 0) := by
  have ht : t ≠ "" := by
    rintro rfl
    have : Date.parse "" = none := by decide +kernel
    simp [this] at hms
  simp [credentialWindow, hc, truthy, ht, minutesBetween_self hms]

/-- A card counted at the time of the saga is not let through again. -/
theorem retryAllowed_counted (code : DeclineCode) {counts : Map String CredentialCount} {n : ℕ}
    {t : String} {ms : ℤ} (ht : p.nowIso = some t) (hms : Date.parse t = some ms)
    (hc : counts.get (credentialKey p.invoice.id p.method) = some ⟨n, t⟩) :
    retryAllowed p code
      (credentialWindow counts (credentialKey p.invoice.id p.method) p.nowIso) = false := by
  have hmin := credentialWindow_counted hms hc
  rw [← ht] at hmin
  unfold retryAllowed evaluate
  rw [if_neg (by simp)]
  split
  next d hd => exact sameCardBlock_isAllow hd
  next => exact chargeCaps_default (m := 0) (by simp [hmin]) (by norm_num)

/-- Nor is a fresh credential. -/
theorem freshAllowed_counted (m : PaymentMethod) {counts : Map String CredentialCount} {n : ℕ}
    {t : String} {ms : ℤ} (ht : p.nowIso = some t) (hms : Date.parse t = some ms)
    (hc : counts.get (credentialKey p.invoice.id m) = some ⟨n, t⟩) :
    freshAllowed p.attemptNumber m
      (credentialWindow counts (credentialKey p.invoice.id m) p.nowIso) = false := by
  have hmin := credentialWindow_counted hms hc
  rw [← ht] at hmin
  unfold freshAllowed
  exact chargeCaps_default (m := 0) hmin (by norm_num)

/-- A retry that was counted before it was cut off is not replayable unless it was recorded, or
    did not succeed. -/
theorem counted_retry_replayable {w : World σ} {n : ℕ} {t : String} {ms : ℤ}
    (ht : p.nowIso = some t) (hms : Date.parse t = some ms)
    (hc : w.credentialAttempts.get (credentialKey p.invoice.id p.method) = some ⟨n, t⟩)
    (hd : (decisionAt env w p).action = .retry) :
    Replayable s p adapter env w ↔
      (Collected s p w.charges → recorded p w.books.recoveries ≠ 0) := by
  have hno : ¬ Chargeable s p adapter (decisionAt env w p).action w.books := by
    rw [hd]
    rintro ⟨ha, -⟩
    simp [World.books, retryAllowed_counted p (codeOf p) ht hms hc] at ha
  simp only [Replayable]
  tauto

end

end

/-- Cut off after the charge and before it was counted, and run again to its end: the payment is
    collected and recorded once. -/
theorem replay_exactly_once_sample :
    let cut := ((Sample.service.executeRecovery Sample.stripe Sample.attempt).upTo
      (World.handle Sample.env) 11 Sample.world).2
    let replay := (Sample.service.executeRecovery Sample.stripe Sample.attempt).exec
      (World.handle Sample.env) cut
    ExactlyOnce Sample.service Sample.attempt replay.2 := by
  intro cut replay
  obtain ⟨out, hout⟩ := Option.isSome_iff_exists.1 (by decide +kernel : replay.1.isSome)
  have hnone : ¬ Collected Sample.service Sample.attempt Sample.world.charges := by
    rintro ⟨m, hm⟩
    simp [settled, Sample.world, World.init] at hm
  have hstart : Attempted Sample.service Sample.attempt Sample.env cut :=
    .again Sample.stripe 11 (.first hnone rfl)
      ⟨fun h => absurd h hnone, fun h => absurd rfl h⟩ ⟨rfl, rfl, rfl⟩
  refine (replay_exactly_once Sample.service Sample.attempt Sample.stripe Sample.env hstart
    (Prod.ext hout rfl : replay = (some out, replay.2))).2 ⟨fun _ _ => ?_, fun h => ?_⟩
  · exact ⟨by decide +kernel, _, if_pos (by decide +kernel), rfl⟩
  · exact absurd (by decide +kernel) h

/-- Cut off after the attempt was counted, and run again to its end: the payment is collected, and
    no recovery is recorded. -/
theorem replay_exactly_once_fails :
    let cut := ((Sample.service.executeRecovery Sample.stripe Sample.attempt).upTo
      (World.handle Sample.env) 12 Sample.world).2
    let replay := (Sample.service.executeRecovery Sample.stripe Sample.attempt).exec
      (World.handle Sample.env) cut
    replay.1.isSome ∧ Collected Sample.service Sample.attempt replay.2.charges ∧
      recorded Sample.attempt replay.2.books.recoveries = 0 ∧
      ¬ ExactlyOnce Sample.service Sample.attempt replay.2 := by
  intro cut replay
  have hc : Collected Sample.service Sample.attempt replay.2.charges :=
    ⟨Sample.method, by decide +kernel⟩
  have hr : recorded Sample.attempt replay.2.books.recoveries = 0 := by decide +kernel
  refine ⟨by decide +kernel, hc, hr, fun h => ?_⟩
  rw [h.1 hc] at hr
  cases hr

end AX10M
