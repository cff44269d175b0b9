/-
  What training fits (`training.ts` and `ledger-samples.ts` of `@ax10m/recovery-engine`).

  On samples of finite numbers the weights are those of gradient descent on these (`fitted`,
  `trained_fin`).  A snapshot with a field that is taken for `NaN`, or an infinite amount, makes a
  weight `NaN` (`trained_nan`).
-/
import AX10M.RecoveryEngine.Scores

namespace AX10M

open Js Draws Regression

/-! ## What samples count for -/

/-- A sample counts for one, or for an amount in units, of the ledger or of its snapshot. -/
def WeightOf (s : TrainingSample) : Prop :=
  s.weight = 1 ∨ (∃ amt : ℚ, s.weight = .max 1 (.fin amt / .fin 100)) ∨
    ∃ amt, toNumber (snapshotField s.features "amountMinor") = .ok amt ∧
      s.weight = .max 1 (amt / .fin 100)

theorem weightOf_samples {entries : List LedgerEntry} {weightByAmount : Bool}
    {samples : List TrainingSample} (h : samplesFromLedger entries weightByAmount = .ok samples) :
    ∀ s ∈ samples, WeightOf s := by
  intro s hs
  obtain ⟨p, hp, hmap⟩ := exists_of_mapM h hs
  obtain ⟨weight, hweight, rfl⟩ := map_eq_ok.1 hmap
  obtain ⟨⟨i, f⟩, -, hlabel⟩ := List.mem_filterMap.1 hp
  obtain ⟨labelled, hsample, rfl⟩ := Option.map_eq_some_iff.1 hlabel
  obtain ⟨-, hsome⟩ := Option.ite_none_left_eq_some.1 hsample
  obtain rfl := Option.some.inj hsome
  cases weightByAmount with
  | false => exact Or.inl (Except.ok.inj hweight).symm
  | true =>
    obtain ⟨amt, hamt, rfl⟩ := map_eq_ok.1 hweight
    right
    cases hget : (LedgerSamples.readAll entries).amountMinor.get i with
    | none =>
      rw [hget] at hamt
      exact Or.inr ⟨amt, hamt, rfl⟩
    | some x =>
      rw [hget] at hamt
      exact Or.inl ⟨x, by rw [← Except.ok.inj hamt]⟩

/-- What counts for at least one. -/
theorem max_one (amt : Double ℚ) :
    (amt = .nan ∧ Double.max 1 (amt / .fin 100) = .nan) ∨
      (amt = .inf false ∧ Double.max 1 (amt / .fin 100) = .inf false) ∨
        ∃ x : ℚ, 0 < x ∧ Double.max 1 (amt / .fin 100) = .fin x := by
  cases amt with
  | fin x =>
    refine Or.inr (Or.inr ?_)
    rw [Double.fin_div (by norm_num)]
    show ∃ y : ℚ, 0 < y ∧ (if decide (1 < x / 100) = true then Double.fin (x / 100) else .fin 1) =
      .fin y
    split_ifs with hx
    · exact ⟨x / 100, one_pos.trans (of_decide_eq_true hx), rfl⟩
    · exact ⟨1, one_pos, rfl⟩
  | inf s =>
    cases s with
    | false => exact Or.inr (Or.inl ⟨rfl, rfl⟩)
    | true => exact Or.inr (Or.inr ⟨1, one_pos, rfl⟩)
  | nan => exact Or.inl ⟨rfl, rfl⟩

section

variable {K : Type} [Field K]

/-- The model before training, in finite numbers. -/
def initialFinite (K : Type) [Field K] (seed : UInt32) : Linear K featureDim :=
  { w := Vector.ofFn fun i => ((drawAt (mulberry32 seed) i - 1 / 2) / 100 : ℚ)
    b := 0 }

theorem initialModel_eq (seed : UInt32) :
    (initialModel seed : Linear (Double K) featureDim) = (initialFinite K seed).map .fin := by
  refine Linear.ext_get (fun i => ?_) rfl
  rw [Linear.get_map, initialModel, initialFinite, Regression.get_ofFn, Regression.get_ofFn]

end

section

variable {K : Type} [Field K] [LinearOrder K] (math : LogisticMath K)

/-! ## The training loop -/

/-- The vector of a snapshot, zero if it has none. -/
def snapshotVector (f : Json) : Vector (Double K) featureDim :=
  match encodeSnapshot math f with
  | .ok x => x
  | .error _ => Vector.replicate _ 0

/-- The example of a sample. -/
def sampleExample (s : TrainingSample) : Example (Double K) featureDim :=
  toExample s (snapshotVector math s.features)

/-- The model after training. -/
def trained (samples : List TrainingSample) (opts : TrainOptions) :
    Linear (Double K) featureDim :=
  descend (sigmoid math) (.fin (opts.lr : K)) (.fin (opts.l2 : K))
    (samples.map (sampleExample math)) opts.iterations (initialModel opts.seed)

/-- The fields of a snapshot have numbers. -/
def Converts (f : Json) : Prop := ∃ n, readNumbers f = .ok n

variable {math} {f : Json} {samples : List TrainingSample} {opts : TrainOptions}

theorem snapshotVector_eq {x : Vector (Double K) featureDim} (h : encodeSnapshot math f = .ok x) :
    snapshotVector math f = x := by
  rw [snapshotVector, h]

theorem encodeSnapshot_of_converts (math : LogisticMath K) (h : Converts f) :
    encodeSnapshot math f = .ok (snapshotVector math f) := by
  obtain ⟨n, hn⟩ := h
  obtain ⟨x, hx⟩ : ∃ x, encodeSnapshot math f = .ok x := ⟨_, map_eq_ok.2 ⟨n, hn, rfl⟩⟩
  rw [snapshotVector_eq hx, hx]

theorem converts_of_encode {x : Vector (Double K) featureDim}
    (h : encodeSnapshot math f = .ok x) : Converts f := by
  obtain ⟨n, hn, -⟩ := encodeSnapshot_eq_ok.1 h
  exact ⟨n, hn⟩

theorem trainIteration_descend (es : List (Example (Double K) featureDim))
    (p : Linear (Double K) featureDim × List (Double K)) (n : ℕ) :
    ((List.range n).foldl (trainIteration math opts es) p).1 =
      descend (sigmoid math) (.fin (opts.lr : K)) (.fin (opts.l2 : K)) es n p.1 := by
  induction n with
  | zero => rfl
  | succ n ih =>
    rw [List.range_succ, List.foldl_append, descend_succ, ← ih]
    rfl

/-- Training gives a model if there are samples, and their fields have numbers. -/
theorem trainLogisticRecoverability_ok (math : LogisticMath K) (opts : TrainOptions)
    (hne : samples ≠ []) (h : ∀ s ∈ samples, Converts s.features) : ∃ history,
      trainLogisticRecoverability math samples opts =
        .ok ⟨{ w := (trained math samples opts).w.toList, b := (trained math samples opts).b },
          history⟩ := by
  have hencode : samples.mapM (fun s => encodeSnapshot math s.features) =
      .ok (samples.map fun s => snapshotVector math s.features) := by
    refine mapM_eq_ok.2 (List.forall₂_map_right_iff.2 (List.forall₂_same.2 fun s hs => ?_))
    exact encodeSnapshot_of_converts math (h s hs)
  have hzip : List.zipWith toExample samples
      (samples.map fun s => snapshotVector math s.features) =
        samples.map (sampleExample math) := by
    rw [List.zipWith_map_right, List.zipWith_self]
    rfl
  have htrained : trained math samples opts = ((List.range opts.iterations).foldl
      (trainIteration math opts (samples.map (sampleExample math)))
        (initialModel opts.seed, [])).1 :=
    (trainIteration_descend _ (initialModel opts.seed, []) _).symm
  refine ⟨((List.range opts.iterations).foldl
    (trainIteration math opts (samples.map (sampleExample math))) (initialModel opts.seed, [])).2,
      ?_⟩
  rw [trainLogisticRecoverability, if_neg hne, hencode, htrained, ← hzip]
  rfl

theorem of_trainLogisticRecoverability {r : TrainResult K}
    (h : trainLogisticRecoverability math samples opts = .ok r) :
    samples ≠ [] ∧ ∀ s ∈ samples, Converts s.features := by
  unfold trainLogisticRecoverability at h
  split_ifs at h with hne
  refine ⟨hne, fun s hs => ?_⟩
  cases hxs : samples.mapM (fun s => encodeSnapshot math s.features) with
  | error e =>
    rw [hxs] at h
    cases h
  | ok xs =>
    obtain ⟨x, hx⟩ := ok_of_mapM hxs hs
    exact converts_of_encode hx

theorem sampleExample_label (math : LogisticMath K) (s : TrainingSample) :
    (sampleExample math s).y = 0 ∨ (sampleExample math s).y = 1 := by
  show (if s.recovered = true then (1 : Double K) else 0) = 0 ∨
    (if s.recovered = true then (1 : Double K) else 0) = 1
  split_ifs
  · exact Or.inr rfl
  · exact Or.inl rfl

/-! ## Finite samples -/

/-- The fields of a snapshot have finite numbers. -/
def FiniteSnapshot (f : Json) : Prop := ∃ n, readNumbers f = .ok n ∧ n.Finite

variable (math) in
/-- **What gradient descent fits** to the finite parts of samples. -/
def fitted (samples : List TrainingSample) (opts : TrainOptions) :
    Linear K featureDim :=
  descend (logistic math) (opts.lr : K) (opts.l2 : K)
    (samples.map fun s => (sampleExample math s).map Double.finitePart) opts.iterations
    (initialFinite K opts.seed)

variable [IsStrictOrderedRing K]

/-- A sample that counts for something. -/
theorem weight_positive {s : TrainingSample} (h : WeightOf s) :
    (toField s.weight : Double K).Positive := by
  have hmax (amt : Double ℚ) : (toField (.max 1 (amt / .fin 100)) : Double K).Positive := by
    rcases max_one amt with ⟨-, hnan⟩ | ⟨-, hinf⟩ | ⟨x, hx, hfin⟩
    · rw [hnan]
      trivial
    · rw [hinf]
      rfl
    · rw [hfin]
      exact Rat.cast_pos.2 hx
  rcases h with h | ⟨amt, h⟩ | ⟨amt, -, h⟩
  · rw [h]
    show (0 : K) < ((1 : ℚ) : K)
    rw [Rat.cast_one]
    exact one_pos
  · rw [h]
    exact hmax _
  · rw [h]
    exact hmax _

theorem readNumbers_amount {n : SnapshotNumbers} (h : readNumbers f = .ok n) :
    toNumber (snapshotField f "amountMinor") = .ok n.amountMinor := by
  unfold readNumbers at h
  obtain ⟨amount, hamount, h⟩ := bind_eq_ok.1 h
  obtain ⟨tenure, -, h⟩ := bind_eq_ok.1 h
  obtain ⟨rate, -, h⟩ := bind_eq_ok.1 h
  obtain ⟨attempt, -, h⟩ := bind_eq_ok.1 h
  obtain ⟨days, -, h⟩ := bind_eq_ok.1 h
  obtain ⟨prior, -, h⟩ := bind_eq_ok.1 h
  rw [hamount, ← Except.ok.inj h]

/-- A sample of finite numbers counts for a finite number. -/
theorem weight_fin {s : TrainingSample} (h : WeightOf s) (hfin : FiniteSnapshot s.features) :
    ∃ x, s.weight = .fin x := by
  rcases h with h | ⟨amt, h⟩ | ⟨amt, hamt, h⟩
  · exact ⟨1, h⟩
  · rcases max_one (.fin amt) with ⟨hnan, -⟩ | ⟨hinf, -⟩ | ⟨x, -, hx⟩
    · cases hnan
    · cases hinf
    · exact ⟨x, h.trans hx⟩
  · obtain ⟨n, hn, hfinite⟩ := hfin
    have heq : amt = n.amountMinor := Except.ok.inj (hamt.symm.trans (readNumbers_amount hn))
    rcases max_one amt with ⟨hnan, -⟩ | ⟨hinf, -⟩ | ⟨x, -, hx⟩
    · exact absurd (heq.symm.trans hnan) hfinite.1.1
    · exact absurd (heq.symm.trans hinf) hfinite.2
    · exact ⟨x, h.trans hx⟩

/-- The example of finite numbers is that of their finite parts. -/
theorem sampleExample_fin {s : TrainingSample} (h : WeightOf s)
    (hfin : FiniteSnapshot s.features) :
    ((sampleExample math s).map Double.finitePart).map .fin = sampleExample math s := by
  obtain ⟨n, hn, hfinite⟩ := hfin
  have hencode := encodeSnapshot_of_converts math ⟨n, hn⟩
  have hx (i : Fin featureDim) :
      ∃ y, (snapshotVector math s.features).get i = .fin y := entries_fin hn hencode hfinite i
  have hvector : ((snapshotVector math s.features).map Double.finitePart).map .fin =
      snapshotVector math s.features := by
    refine Vector.ext fun i hi => ?_
    obtain ⟨y, hy⟩ := hx ⟨i, hi⟩
    rw [Vector.getElem_map, Vector.getElem_map]
    exact (congrArg (fun v => Double.fin v.finitePart) hy).trans hy.symm
  have hlabel : Double.fin (sampleExample math s).y.finitePart = (sampleExample math s).y := by
    rcases sampleExample_label math s with hy | hy
    · rw [hy]
      rfl
    · rw [hy]
      rfl
  have hweight : Double.fin (toField s.weight : Double K).finitePart = toField s.weight := by
    obtain ⟨x, hx⟩ := weight_fin h ⟨n, hn, hfinite⟩
    rw [hx]
    rfl
  exact congr (congr (congrArg Example.mk hvector) hlabel) hweight

theorem embeds_fin (hexp : ∀ z, 0 ≤ math.exp z) :
    Embeds Double.fin (logistic math) (sigmoid math) where
  zero := rfl
  add := Double.fin_add
  sub := Double.fin_sub
  mul := Double.fin_mul
  link := sigmoid_fin hexp

/-- **Training on finite numbers** fits what gradient descent does. -/
theorem trained_fin (hexp : ∀ z, 0 ≤ math.exp z) (hne : samples ≠ [])
    (hweight : ∀ s ∈ samples, WeightOf s) (hfin : ∀ s ∈ samples, FiniteSnapshot s.features) :
    trained math samples opts = (fitted math samples opts).map .fin := by
  set es := samples.map fun s => (sampleExample math s).map Double.finitePart with hes
  have hexamples : samples.map (sampleExample math) = es.map (Example.map .fin) := by
    rw [hes, List.map_map]
    exact List.map_congr_left fun s hs => (sampleExample_fin (hweight s hs) (hfin s hs)).symm
  have htotal : 0 < totalWeight es := by
    have hpositive : (totalWeight (samples.map (sampleExample math))).Positive := by
      refine totalWeight_positive (by simpa using hne) fun e he => ?_
      obtain ⟨s, hs, rfl⟩ := List.mem_map.1 he
      exact weight_positive (hweight s hs)
    rw [hexamples, totalWeight_map (embeds_fin hexp)] at hpositive
    exact hpositive
  rw [trained, hexamples, initialModel_eq]
  exact descend_map (embeds_fin hexp) (fun x => Double.fin_div htotal.ne') _ _ _ _

/-- **A snapshot with no finite numbers** makes a weight `NaN`. -/
theorem trained_nan (math : LogisticMath K) (hlr : 0 < opts.lr) (hiterations : 2 ≤ opts.iterations)
    (hweight : ∀ s ∈ samples, WeightOf s) (hconverts : ∀ s ∈ samples, Converts s.features)
    (h : ∃ s ∈ samples, ¬ FiniteSnapshot s.features) :
    ∃ i : Fin featureDim, (trained math samples opts).w.get i = .nan := by
  obtain ⟨s, hs, hnot⟩ := h
  obtain ⟨n, hn⟩ := hconverts s hs
  have hencode := encodeSnapshot_of_converts math ⟨n, hn⟩
  have hmem : sampleExample math s ∈ samples.map (sampleExample math) := List.mem_map_of_mem hs
  by_cases hnum : n.Numeric
  · have hinf : n.amountMinor = .inf false := by
      by_contra hne
      exact hnot ⟨n, hn, hnum, hne⟩
    refine ⟨amountIndex, descend_inf saturates_sigmoid (Rat.cast_pos.2 hlr) ?_ ?_
      ⟨_, hmem, entry_inf hn hencode hinf⟩ hiterations⟩
    · intro e he
      obtain ⟨s, -, rfl⟩ := List.mem_map.1 he
      exact sampleExample_label math s
    · intro e he
      obtain ⟨s, hs, rfl⟩ := List.mem_map.1 he
      exact weight_positive (hweight s hs)
  · obtain ⟨i, hi⟩ := entry_nan hn hencode hnum
    exact ⟨i, descend_nan saturates_sigmoid.nan ⟨_, hmem, i, hi⟩ (by omega) i⟩

end

end AX10M
