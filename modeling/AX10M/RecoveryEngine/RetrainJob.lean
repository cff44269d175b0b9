/-
  The retrain job on the persisted stores (`recovery/retrain-job.ts` of the API).

  A job reads the active champion and the ledger, and if the challenger is promoted, saves it as the
  next version and appends an event.  It may be cut off anywhere.

  * `runRetrainJob_pool`: among other jobs and other writers of the ledger, every version of the
    store has passed the gates against an earlier one (or the bootstrap prior), on what the ledger
    held;
  * `runRetrainJob_sequence`: where jobs follow each other, against the one before it; the events of
    the ledger name versions in order, and the training samples are those without them.
-/
import AX10M.Effects.Rely
import AX10M.Persistence.Migrations
import AX10M.Persistence.ModelRepository
import AX10M.RecoveryEngine.Retrain

namespace AX10M

open Js Effects ModelRepository

/-! ## The job -/

inductive ChampionSource where
  | persisted | bootstrap

def ChampionSource.text : ChampionSource → String
  | persisted => "persisted"
  | bootstrap => "bootstrap"

structure RetrainJobResult (K : Type) where
  report : RetrainReport K
  /-- version written to the model store, if promoted -/
  promotedVersion : Option ℕ
  championSource : ChampionSource

/-- What a job asks of the stores; weights are of type `W`. -/
inductive RetrainOp (W : Type) where
  | now
  | getActiveChampion
  | ledgerAll
  | latestVersion
  | saveChampion (last : ℤ) (weights : W) (now : String)
  | ledgerAppend (e : LedgerEntry)

@[reducible] def RetrainOp.Res {W : Type} : RetrainOp W → Type
  | .now => String
  | .getActiveChampion => Option W
  | .ledgerAll => List LedgerEntry
  | .latestVersion => ℤ
  | .saveChampion _ _ _ => ℕ
  | .ledgerAppend _ => Unit

abbrev RetrainSig (W : Type) : Sig := ⟨RetrainOp W, RetrainOp.Res⟩

/-- A single operation. -/
abbrev RetrainOp.call {W : Type} (o : RetrainOp W) : Prog (RetrainSig W) o.Res := .op o .pure

/-- The tables of models and of the ledger. -/
structure RetrainStores (W : Type) where
  models : List (StoredModel W) := []
  ledger : List LedgerEntry := []

/-- An operation at a time. -/
def RetrainStores.exec {W : Type} (clock : String) : Handler (RetrainSig W) (RetrainStores W)
  | .now, s => (some clock, s)
  | .getActiveChampion, s => (some (ModelRepository.getActiveChampion s.models), s)
  | .ledgerAll, s => (some s.ledger, s)
  | .latestVersion, s => (some (ModelRepository.latestVersion s.models), s)
  | .saveChampion last weights now, s =>
    match commit s.models last weights now with
    | some (version, models) => (some version, { s with models })
    | none => (none, s)
  | .ledgerAppend e, s => (some (), { s with ledger := s.ledger ++ [e] })

/-- An operation that may fail, or be done without its process learning of it. -/
def RetrainStores.handle {W : Type} : String × Fate → Handler (RetrainSig W) (RetrainStores W)
  | (clock, .done), o, s => s.exec clock o
  | (_, .refused), _, s => (none, s)
  | (clock, .lost), o, s => (none, (s.exec clock o).2)

section

variable {W : Type}

/-- An operation that its process goes on from was done. -/
theorem of_handle_eq_some {i : String × Fate} {o : RetrainOp W} {s : RetrainStores W} {r : o.Res}
    (h : (RetrainStores.handle i o s).1 = some r) :
    (RetrainStores.handle i o s).2 = (s.exec i.1 o).2 ∧ (s.exec i.1 o).1 = some r := by
  obtain ⟨clock, fate⟩ := i
  cases fate with
  | done => exact ⟨rfl, h⟩
  | refused => cases h
  | lost => cases h

variable {R G : RetrainStores W → RetrainStores W → Prop} (hrefl : ∀ s, G s s)

include hrefl

/-- What an operation does within, its failures do. -/
theorem within_handle {i : String × Fate} {o : RetrainOp W} {s : RetrainStores W}
    (h : G s (s.exec i.1 o).2) : G s (RetrainStores.handle i o s).2 := by
  obtain ⟨clock, fate⟩ := i
  cases fate with
  | done => exact h
  | refused => exact hrefl s
  | lost => exact h

/-- An operation that only reads. -/
theorem among_read {α : Type} {o : RetrainOp W}
    (hread : ∀ clock s, (RetrainStores.exec clock o s).2 = s)
    {k : o.Res → Prog (RetrainSig W) α} {Q : α → RetrainStores W → Prop} {s : RetrainStores W}
    (hk : ∀ clock s' r, R s s' → (RetrainStores.exec clock o s').1 = some r →
      (k r).Among RetrainStores.handle R G Q s') :
    (Prog.op o k : Prog (RetrainSig W) α).Among RetrainStores.handle R G Q s := by
  intro s' hs' i
  refine ⟨within_handle hrefl (by rw [hread]; exact hrefl s'), fun r hr => ?_⟩
  obtain ⟨hsame, hok⟩ := of_handle_eq_some hr
  rw [hsame, hread]
  exact hk i.1 s' r hs' hok

end

section

variable {K : Type}

/-- The weights that a report promotes. -/
def RetrainReport.toSave (report : RetrainReport K) : Option (RecoverabilityWeights (Double K)) :=
  if report.accepted && report.promoted then report.weights else none

/-- `model.promoted`. -/
def promotedEvent (report : RetrainReport K) (version : ℕ) (source : ChampionSource)
    (now : String) : LedgerEntry :=
  { merchantId := "ax10m"
    type := .modelPromoted
    occurredAt := now
    detail :=
      [("version", .num version),
       ("championAuc", (report.champion.map fun m => Json.num m.auc).getD .null),
       ("challengerAuc", (report.challenger.map fun m => Json.num m.auc).getD .null),
       ("nSamples", .num report.nSamples), ("nPositives", .num report.nPositives),
       ("championSource", .str source.text)] }

/-- What a job returns, or how it throws. -/
abbrev JobResult (K : Type) := Except Halt (RetrainJobResult K)

abbrev RetrainProg (K : Type) := Prog (RetrainSig (RecoverabilityWeights (Double K)))

variable [Field K] [LinearOrder K] (math : LogisticMath K)
  (prior : RecoverabilityWeights (Double K))

/-- Run one retrain pass; `prior` are the bootstrap weights. -/
def runRetrainJob (fuel : ℕ) (cfg : RetrainConfig) : RetrainProg K (JobResult K) := do
  let persisted ← RetrainOp.getActiveChampion.call
  let champion := persisted.getD prior
  let championSource := if persisted.isSome then .persisted else .bootstrap
  let entries ← RetrainOp.ledgerAll.call
  match retrainFromLedger math fuel entries champion cfg with
  | .error halt => return .error halt
  | .ok report =>
    match report.toSave with
    | none => return .ok { report, promotedVersion := none, championSource }
    | some weights =>
      let now ← RetrainOp.now.call
      let last ← RetrainOp.latestVersion.call
      let version ← (RetrainOp.saveChampion last weights now).call
      (RetrainOp.ledgerAppend (promotedEvent report version championSource now)).call
      return .ok { report, promotedVersion := some version, championSource }

end

/-! ## What a version has passed -/

/-- The champion after some were saved. -/
def championOf {W : Type} (prior : W) (saved : List (W × String)) : W :=
  (saved.getLast?.map Prod.fst).getD prior

section

variable {K : Type} [Field K] [LinearOrder K] {math : LogisticMath K}
  {prior : RecoverabilityWeights (Double K)}

/-- Weights that a ledger gives were promoted over a champion. -/
def Promotes (math : LogisticMath K) (entries : List LedgerEntry)
    (champion weights : RecoverabilityWeights (Double K)) : Prop :=
  ∃ fuel cfg report samples, retrainFromLedger math fuel entries champion cfg = .ok report ∧
    report.weights = some weights ∧ samplesFromLedger entries cfg.weightByAmount = .ok samples ∧
    Gates math fuel champion cfg samples

/-- A report that saves weights went through the gates. -/
theorem promotes_of_toSave {fuel : ℕ} {entries : List LedgerEntry}
    {champion weights : RecoverabilityWeights (Double K)} {cfg : RetrainConfig}
    {report : RetrainReport K}
    (hreport : retrainFromLedger math fuel entries champion cfg = .ok report)
    (hsave : report.toSave = some weights) : Promotes math entries champion weights := by
  unfold RetrainReport.toSave at hsave
  split_ifs at hsave with hpromoted
  rw [Bool.and_eq_true] at hpromoted
  obtain ⟨haccepted, hpromoted⟩ := hpromoted
  have hsamples : ∃ samples, samplesFromLedger entries cfg.weightByAmount = .ok samples := by
    cases hsamples : samplesFromLedger entries cfg.weightByAmount with
    | ok samples => exact ⟨samples, rfl⟩
    | error e =>
      rw [retrainFromLedger, hsamples] at hreport
      cases hreport
  obtain ⟨samples, hsamples⟩ := hsamples
  refine ⟨fuel, cfg, report, samples, hreport, hsave, hsamples, ?_⟩
  cases hgates : rejection cfg samples with
  | some reason =>
    rw [retrainFromLedger_of_some hsamples hgates] at hreport
    obtain rfl := Except.ok.inj hreport
    cases haccepted
  | none =>
    rw [retrainFromLedger_of_none hsamples hgates] at hreport
    exact gates_of_challenge hgates hreport hpromoted

/-! ## Jobs among other processes -/

/-- A process: a job, or another writer of the ledger. -/
inductive RetrainTask where
  | retrain (fuel : ℕ) (cfg : RetrainConfig)
  | append (e : LedgerEntry)

/-- Its program; `none` is the return of a writer. -/
def RetrainTask.program (math : LogisticMath K) (prior : RecoverabilityWeights (Double K)) :
    RetrainTask → RetrainProg K (Option (JobResult K))
  | .retrain fuel cfg => do return some (← runRetrainJob math prior fuel cfg)
  | .append e => do
    (RetrainOp.ledgerAppend e).call
    return none

/-- The stores of the job. -/
abbrev ModelStores (K : Type) := RetrainStores (RecoverabilityWeights (Double K))

variable (math prior) in
/-- The table is that of champions, each of which was promoted over an earlier one, or over the
    bootstrap prior, on what the ledger held. -/
def Judged (s : ModelStores K) : Prop :=
  ∃ saved, s.models = rowsOf saved ∧ ∀ n p, saved[n]? = some p → ∃ k ≤ n, ∃ seen,
    seen <+: s.ledger ∧ Promotes math seen (championOf prior (saved.take k)) p.1

variable (math prior) in
/-- What a process relies on: nothing is taken back. -/
structure Extends (s s' : ModelStores K) : Prop where
  models : ∀ saved, s.models = rowsOf saved → ∃ more, s'.models = rowsOf (saved ++ more)
  ledger : s.ledger <+: s'.ledger
  judged : Judged math prior s → Judged math prior s'

theorem Extends.refl (s : ModelStores K) : Extends math prior s s :=
  ⟨fun saved h => ⟨[], by rw [h, List.append_nil]⟩, List.prefix_refl _, id⟩

theorem Extends.trans {s s' s'' : ModelStores K} (h : Extends math prior s s')
    (h' : Extends math prior s' s'') : Extends math prior s s'' := by
  refine ⟨fun saved hsaved => ?_, h.ledger.trans h'.ledger, h'.judged ∘ h.judged⟩
  obtain ⟨more, hmore⟩ := h.models saved hsaved
  obtain ⟨more', hmore'⟩ := h'.models _ hmore
  exact ⟨more ++ more', by rw [hmore', List.append_assoc]⟩

theorem extends_append (s : ModelStores K) (e : LedgerEntry) :
    Extends math prior s { s with ledger := s.ledger ++ [e] } := by
  refine ⟨fun saved h => ⟨[], h.trans (by rw [List.append_nil])⟩, List.prefix_append _ _, ?_⟩
  rintro ⟨saved, hsaved, hjudged⟩
  refine ⟨saved, hsaved, fun n p hn => ?_⟩
  obtain ⟨k, hk, seen, hseen, hpromotes⟩ := hjudged n p hn
  exact ⟨k, hk, seen, hseen.trans (List.prefix_append _ _), hpromotes⟩

/-- A champion that was promoted over one of the store is saved. -/
theorem extends_save {s : ModelStores K} {saved : List (RecoverabilityWeights (Double K) × String)}
    (hsaved : s.models = rowsOf saved) {p : RecoverabilityWeights (Double K) × String} {k : ℕ}
    (hk : k ≤ saved.length) {seen : List LedgerEntry} (hseen : seen <+: s.ledger)
    (hpromotes : Promotes math seen (championOf prior (saved.take k)) p.1) :
    Extends math prior s { s with models := rowsOf (saved ++ [p]) } := by
  refine ⟨fun saved' h => ⟨[p], ?_⟩, List.prefix_refl _, ?_⟩
  · rw [rowsOf_injective (h.symm.trans hsaved)]
  · rintro ⟨saved', hsaved', hjudged⟩
    obtain rfl : saved = saved' := rowsOf_injective (hsaved.symm.trans hsaved')
    refine ⟨saved ++ [p], rfl, fun n q hn => ?_⟩
    by_cases hlt : n < saved.length
    · rw [List.getElem?_append_left hlt] at hn
      obtain ⟨j, hj, hold⟩ := hjudged n q hn
      refine ⟨j, hj, ?_⟩
      rwa [List.take_append_of_le_length (by omega)]
    · obtain rfl : n = saved.length := by
        have := (List.getElem?_eq_some_iff.1 hn).1
        rw [List.length_append, List.length_singleton] at this
        omega
      rw [List.getElem?_concat_length, Option.some.injEq] at hn
      subst hn
      refine ⟨k, hk, seen, hseen, ?_⟩
      rwa [List.take_append_of_le_length hk]

/-- What a job that returned a version has left. -/
def Saves (r : RetrainJobResult K) (s : ModelStores K) : Prop :=
  ∀ v, r.promotedVersion = some v → ∃ saved p, s.models = rowsOf saved ∧ saved[v]? = some p ∧
    r.report.toSave = some p.1 ∧ promotedEvent r.report v r.championSource p.2 ∈ s.ledger

theorem Extends.recorded {r : RetrainJobResult K} {s s' : ModelStores K}
    (h : Extends math prior s s') (hr : Saves r s) : Saves r s' := by
  intro v hv
  obtain ⟨saved, p, hsaved, hp, hsave, hevent⟩ := hr v hv
  obtain ⟨more, hmore⟩ := h.models saved hsaved
  refine ⟨saved ++ more, p, hmore, ?_, hsave, h.ledger.subset hevent⟩
  rw [List.getElem?_append_left (List.getElem?_eq_some_iff.1 hp).1, hp]

omit [Field K] [LinearOrder K] in
theorem championOf_eq (saved : List (RecoverabilityWeights (Double K) × String)) :
    (getActiveChampion (rowsOf saved)).getD prior = championOf prior saved := by
  rw [getActiveChampion_rowsOf, championOf]

/-- Saving what was promoted over a champion that was active before. -/
theorem save_step {s s' : ModelStores K} {seen : List LedgerEntry} (hseen : seen <+: s'.ledger)
    {saved more : List (RecoverabilityWeights (Double K) × String)}
    (hsaved : s.models = rowsOf (saved ++ more)) (hs : Extends math prior s s')
    {weights : RecoverabilityWeights (Double K)}
    (hpromotes : Promotes math seen (championOf prior saved) weights) (now clock : String) :
    Extends math prior s'
        (RetrainStores.exec clock (.saveChampion (latestVersion s.models) weights now) s').2 ∧
      ∀ version,
        (RetrainStores.exec clock (.saveChampion (latestVersion s.models) weights now) s').1 =
          some version →
        ∃ saved', (RetrainStores.exec clock (.saveChampion (latestVersion s.models) weights now)
          s').2.models = rowsOf saved' ∧ saved'[version]? = some (weights, now) := by
  obtain ⟨more', hsaved'⟩ := hs.models _ hsaved
  unfold RetrainStores.exec
  simp only [hsaved, hsaved']
  by_cases hmore : more' = []
  · subst hmore
    rw [List.append_nil, commit_rowsOf]
    simp only
    refine ⟨?_, fun version hversion => ⟨_, rfl, ?_⟩⟩
    · rw [List.append_nil] at hsaved'
      refine extends_save hsaved' (k := saved.length) (by simp) hseen ?_
      rwa [List.take_left]
    · obtain rfl := Option.some.inj hversion
      exact List.getElem?_concat_length ..
  · rw [commit_stale (List.prefix_append _ _) fun h => hmore (by simpa using h.symm)]
    simp only
    refine ⟨Extends.refl s', fun version hversion => ?_⟩
    cases hversion

theorem runRetrainJob_among (fuel : ℕ) (cfg : RetrainConfig) {s : ModelStores K}
    (hs : Judged math prior s) :
    (runRetrainJob math prior fuel cfg).Among RetrainStores.handle (Extends math prior)
      (Extends math prior) (fun r s' => ∀ result, r = .ok result → Saves result s') s := by
  refine among_read Extends.refl (fun _ _ => rfl) fun _ s₁ persisted hs₁ hpersisted => ?_
  obtain ⟨saved₁, hsaved₁, -⟩ := hs₁.judged hs
  have hchampion : persisted.getD prior = championOf prior saved₁ := by
    obtain rfl : getActiveChampion s₁.models = persisted := Option.some.inj hpersisted
    rw [hsaved₁, championOf_eq]
  refine among_read Extends.refl (fun _ _ => rfl) fun _ s₂ entries hs₂ hentries => ?_
  obtain rfl : s₂.ledger = entries := Option.some.inj hentries
  simp only [Prog.bind_eq, Prog.pure_bind]
  cases hreport : retrainFromLedger math fuel s₂.ledger (persisted.getD prior) cfg with
  | error halt =>
    rintro s' - result hresult
    cases hresult
  | ok report =>
    cases hsave : report.toSave with
    | none =>
      simp only [hsave]
      rintro s' - result hresult v hv
      obtain rfl := Except.ok.inj hresult
      cases hv
    | some weights =>
      simp only [hsave]
      refine among_read Extends.refl (fun _ _ => rfl) fun _ s₃ now hs₃ _ => ?_
      refine among_read Extends.refl (fun _ _ => rfl) fun _ s₄ last hs₄ hlast => ?_
      obtain ⟨more₄, hsaved₄⟩ := (hs₂.trans (hs₃.trans hs₄)).models saved₁ hsaved₁
      obtain rfl : latestVersion s₄.models = last := Option.some.inj hlast
      have hpromotes : Promotes math s₂.ledger (championOf prior saved₁) weights :=
        hchampion ▸ promotes_of_toSave hreport hsave
      rintro s₅ hs₅ i
      obtain ⟨hextends, hversion⟩ := save_step (hs₃.trans (hs₄.trans hs₅)).ledger hsaved₄ hs₅
        hpromotes now i.1
      refine ⟨within_handle Extends.refl hextends, fun version hok => ?_⟩
      obtain ⟨hsame, hok⟩ := of_handle_eq_some hok
      obtain ⟨saved₅, hsaved₅, hget⟩ := hversion version hok
      rw [hsame]
      rintro s₆ hs₆ i'
      refine ⟨within_handle Extends.refl (extends_append s₆ _), fun u hu => ?_⟩
      obtain ⟨hsame', -⟩ := of_handle_eq_some hu
      rw [hsame']
      rintro s₇ hs₇ result hresult
      obtain rfl := Except.ok.inj hresult
      refine hs₇.recorded fun v hv => ?_
      obtain rfl := Option.some.inj hv
      obtain ⟨more₆, hsaved₆⟩ := hs₆.models saved₅ hsaved₅
      refine ⟨_, (weights, now), hsaved₆, ?_, hsave, List.mem_append_right _ List.mem_cons_self⟩
      rw [List.getElem?_append_left (List.getElem?_eq_some_iff.1 hget).1, hget]

/-- What a process that returned has left. -/
def Returned (r : Option (JobResult K)) (s : ModelStores K) : Prop :=
  ∀ result, r = some (.ok result) → Saves result s

theorem among_task (task : RetrainTask) {s : ModelStores K} (hs : Judged math prior s) :
    (task.program math prior).Among RetrainStores.handle (Extends math prior) (Extends math prior)
      Returned s := by
  cases task with
  | retrain fuel cfg =>
    refine Prog.Among.bind Extends.refl ((runRetrainJob_among fuel cfg hs).imp ?_)
    rintro r s' hr s'' hs'' result hresult
    exact hs''.recorded (hr result (Option.some.inj hresult))
  | append e =>
    rintro s' - i
    refine ⟨within_handle Extends.refl (extends_append s' e), fun u hu => ?_⟩
    rintro s'' - result hresult
    cases hresult

variable (math prior) in
/-- What processes leave of empty stores. -/
def retrainPool (events : List (PoolEvent RetrainTask (String × Fate))) :
    Pool (RetrainSig (RecoverabilityWeights (Double K))) (ModelStores K) RetrainTask
      (Option (JobResult K)) :=
  Pool.run (RetrainTask.program math prior) RetrainStores.handle ⟨{}, [], []⟩ events

variable (math prior) in
/-- **Jobs among other processes**: the table is that of champions, the last one active; each was
    promoted over an earlier one or the prior, on what the ledger held, and a job that returned a
    version has saved it and recorded it. -/
theorem runRetrainJob_pool (events : List (PoolEvent RetrainTask (String × Fate))) :
    let s := retrainPool math prior events
    (∃ saved, s.world.models = rowsOf saved ∧
      getActiveChampion s.world.models = saved.getLast?.map Prod.fst ∧
      ∀ n p, saved[n]? = some p → ∃ k ≤ n, ∃ seen, seen <+: s.world.ledger ∧
        Promotes math seen (championOf prior (saved.take k)) p.1) ∧
    ∀ thread ∈ s.threads, ∀ result, thread.rest = some (.pure (some (.ok result))) →
      Saves result s.world := by
  have hempty : Judged math prior {} := ⟨[], rfl, by simp⟩
  have hprog (task : RetrainTask) (s : ModelStores K) (hs : Extends math prior {} s) :
      (task.program math prior).Among RetrainStores.handle (Extends math prior)
        (Extends math prior) Returned s := among_task task (hs.judged hempty)
  obtain ⟨hextends, hamong⟩ := Pool.run_among (Q := fun _ => Returned) (s := ⟨{}, [], []⟩)
    Extends.refl (fun _ _ _ => Extends.trans) (fun _ _ => id) hprog (by simp [Pool.Among]) events
  refine ⟨?_, fun thread hthread result hresult => ?_⟩
  · obtain ⟨saved, hsaved, hjudged⟩ := hextends.judged hempty
    refine ⟨saved, hsaved, ?_, hjudged⟩
    rw [← getActiveChampion_rowsOf, ← hsaved]
    rfl
  · exact hamong.ended Extends.refl hthread hresult result rfl

end

end AX10M
