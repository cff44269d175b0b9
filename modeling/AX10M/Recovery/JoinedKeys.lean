/-
  The keys that join ids with ':' (idempotency keys, holdout units, customers in the feature store,
  credentials in the attempt counters).

  The ids are free texts and are joined as they are, so two keys are equal whenever the ids, cut at
  each ':', have the same pieces.  `keys_apart_iff` says of each of the four keys when it tells two
  of its arguments apart: if the same pieces mean that they are divided among the ids alike, as
  they are when no id contains a ':'.
-/
import AX10M.Js.Joined
import AX10M.Js.Numeral
import AX10M.Recovery.Service

namespace AX10M

open Js

/-- What is randomized: a customer of a merchant, or an invoice of a guest. -/
inductive RandomizationUnit where
  | customer (merchantId customerId : String)
  | guest (merchantId invoiceId : String)
  deriving DecidableEq

/-- The unit of an assignment. -/
def AssignmentInput.unit (input : AssignmentInput) : RandomizationUnit :=
  if isGuest input then .guest input.merchantId input.invoiceId
  else .customer input.merchantId (input.customerId.getD "")

/-- The fields of a unit. -/
def RandomizationUnit.fields : RandomizationUnit → List String
  | .customer merchantId customerId => [merchantId, customerId]
  | .guest merchantId invoiceId => [merchantId, "guest", invoiceId]

/-- The ids of an attempt. -/
def IdempotencyKeyInput.ids (input : IdempotencyKeyInput) : List String :=
  [input.merchantId, input.invoiceId, input.paymentMethodId]

/-- The fields of an attempt. -/
def IdempotencyKeyInput.fields (input : IdempotencyKeyInput) : List String :=
  input.ids ++ [toString input.attemptNumber]

/-! ## The keys are joined fields -/

theorem idempotencyMaterial_eq (x : IdempotencyKeyInput) :
    idempotencyMaterial x = join ':' x.fields := rfl

theorem bucketMaterial_eq (input : AssignmentInput) (config : HoldoutConfig) :
    bucketMaterial input config = join ':' (config.salt :: input.unit.fields) := by
  unfold bucketMaterial AssignmentInput.unit
  split_ifs <;> rfl

theorem customerKey_eq (merchantId customerId : String) :
    FeatureStore.customerKey merchantId customerId = join ':' [merchantId, customerId] := by
  rw [join_cons_cons]
  rfl

theorem credentialKey_eq (invoiceId : String) (method : PaymentMethod) :
    credentialKey invoiceId method = join ':' [invoiceId, method.token] := by
  rw [join_cons_cons]
  rfl

theorem RandomizationUnit.fields_inj {u v : RandomizationUnit} : u.fields = v.fields ↔ u = v := by
  constructor
  · intro h
    cases u with
    | customer m c =>
      cases v with
      | customer m' c' =>
        cases h
        rfl
      | guest m' i' => cases h
    | guest m i =>
      cases v with
      | customer m' c' => cases h
      | guest m' i' =>
        cases h
        rfl
  · intro h
    rw [h]

theorem IdempotencyKeyInput.fields_inj {x y : IdempotencyKeyInput} :
    x.fields = y.fields ↔ x = y := by
  constructor
  · intro h
    obtain ⟨m, i, p, n⟩ := x
    obtain ⟨m', i', p', n'⟩ := y
    simp only [fields, ids, List.cons_append, List.nil_append, List.cons.injEq, and_true] at h
    obtain ⟨rfl, rfl, rfl, hn⟩ := h
    have hdigits : Nat.toDigits 10 n = Nat.toDigits 10 n' := by
      have h := congrArg (cut ':') hn
      rw [cut_toString, cut_toString] at h
      exact List.singleton_inj.1 h
    rw [← digitsValue_toDigits n, ← digitsValue_toDigits n', hdigits]
  · intro h
    rw [h]

theorem IdempotencyKeyInput.fields_ne_nil (x : IdempotencyKeyInput) : x.fields ≠ [] :=
  List.cons_ne_nil _ _

theorem IdempotencyKeyInput.pieces_fields (x : IdempotencyKeyInput) :
    pieces ':' x.fields = pieces ':' x.ids ++ [Nat.toDigits 10 x.attemptNumber] := by
  rw [fields, pieces, List.flatMap_append, List.flatMap_cons, List.flatMap_nil, List.append_nil,
    cut_toString]
  rfl

theorem IdempotencyKeyInput.shape_fields (x : IdempotencyKeyInput) :
    shape ':' x.fields = shape ':' x.ids ++ [1] := by
  rw [fields, shape, List.map_append, List.map_cons, List.map_nil, cut_toString]
  rfl

/-! ## When they tell their arguments apart -/

/-- Two attempts get two pre-images of their idempotency keys if the same pieces of their ids, under
    one number, are divided among the ids alike. -/
theorem idempotencyMaterial_apart_iff (x y : IdempotencyKeyInput) :
    (x ≠ y → idempotencyMaterial x ≠ idempotencyMaterial y) ↔
      (x.attemptNumber = y.attemptNumber → pieces ':' x.ids = pieces ':' y.ids →
        shape ':' x.ids = shape ':' y.ids) := by
  rw [Ne, ← IdempotencyKeyInput.fields_inj, idempotencyMaterial_eq, idempotencyMaterial_eq,
    ← Ne, join_ne_iff x.fields_ne_nil y.fields_ne_nil, x.pieces_fields, y.pieces_fields,
    x.shape_fields, y.shape_fields, List.append_left_inj]
  constructor
  · intro h hnumber hpieces
    refine h ?_
    rw [hnumber, hpieces]
  · intro h heq
    obtain ⟨hpieces, hdigits⟩ := List.append_inj' heq rfl
    refine h ?_ hpieces
    rw [← digitsValue_toDigits x.attemptNumber, ← digitsValue_toDigits y.attemptNumber,
      List.singleton_inj.1 hdigits]

theorem bucketMaterial_apart_iff (config : HoldoutConfig) (x y : AssignmentInput) :
    (x.unit ≠ y.unit → bucketMaterial x config ≠ bucketMaterial y config) ↔
      (pieces ':' x.unit.fields = pieces ':' y.unit.fields →
        shape ':' x.unit.fields = shape ':' y.unit.fields) := by
  rw [Ne, ← RandomizationUnit.fields_inj, bucketMaterial_eq, bucketMaterial_eq]
  exact join_cons_ne_iff config.salt

theorem pair_apart_iff (a b a' b' : String) :
    ((a, b) ≠ (a', b') → join ':' [a, b] ≠ join ':' [a', b']) ↔
      (pieces ':' [a, b] = pieces ':' [a', b'] → shape ':' [a, b] = shape ':' [a', b']) := by
  have hne : (a, b) ≠ (a', b') ↔ [a, b] ≠ [a', b'] := by
    simp only [Ne, Prod.mk.injEq, List.cons.injEq, and_true]
  rw [hne]
  exact join_ne_iff (List.cons_ne_nil _ _) (List.cons_ne_nil _ _)

/-- Other attempts get one pre-image, another customer and a guest's invoice one hash material,
    other customers one key in the feature store, and other credentials one counter. -/
theorem keys_apart_fails :
    (∃ x y : IdempotencyKeyInput, x ≠ y ∧ idempotencyMaterial x = idempotencyMaterial y) ∧
    (∃ x y : AssignmentInput, x.unit ≠ y.unit ∧
      bucketMaterial x defaultHoldoutConfig = bucketMaterial y defaultHoldoutConfig) ∧
    (∃ m c m' c', (m, c) ≠ (m', c') ∧
      FeatureStore.customerKey m c = FeatureStore.customerKey m' c') ∧
    ∃ i i' : String, ∃ p p' : PaymentMethod, (i, p.token) ≠ (i', p'.token) ∧
      credentialKey i p = credentialKey i' p' := by
  refine ⟨⟨⟨"mrc_1", "inv_1:a", "pm_1", 1⟩, ⟨"mrc_1", "inv_1", "a:pm_1", 1⟩, ?_⟩,
    ⟨⟨"mrc_1", some "guest:inv_1", "inv_2", ⟨.small, .soft, .na⟩⟩,
      ⟨"mrc_1", none, "inv_1", ⟨.small, .soft, .na⟩⟩, ?_⟩,
    ⟨"mrc_1", "eu:cus_1", "mrc_1:eu", "cus_1", ?_⟩,
    ⟨"inv_1", "inv_1:tok", ⟨"pm_1", "cus_1", "ref_1", "tok:1", none, none, none, none⟩,
      ⟨"pm_2", "cus_1", "ref_2", "1", none, none, none, none⟩, ?_⟩⟩
  all_goals decide

/-- When each key tells its arguments apart. -/
theorem keys_apart_iff (config : HoldoutConfig) :
    (∀ x y : IdempotencyKeyInput, (x ≠ y → idempotencyMaterial x ≠ idempotencyMaterial y) ↔
      (x.attemptNumber = y.attemptNumber → pieces ':' x.ids = pieces ':' y.ids →
        shape ':' x.ids = shape ':' y.ids)) ∧
    (∀ x y : AssignmentInput,
      (x.unit ≠ y.unit → bucketMaterial x config ≠ bucketMaterial y config) ↔
      (pieces ':' x.unit.fields = pieces ':' y.unit.fields →
        shape ':' x.unit.fields = shape ':' y.unit.fields)) ∧
    (∀ m c m' c', ((m, c) ≠ (m', c') →
        FeatureStore.customerKey m c ≠ FeatureStore.customerKey m' c') ↔
      (pieces ':' [m, c] = pieces ':' [m', c'] → shape ':' [m, c] = shape ':' [m', c'])) ∧
    ∀ (i i' : String) (p p' : PaymentMethod), ((i, p.token) ≠ (i', p'.token) →
        credentialKey i p ≠ credentialKey i' p') ↔
      (pieces ':' [i, p.token] = pieces ':' [i', p'.token] →
        shape ':' [i, p.token] = shape ':' [i', p'.token]) := by
  refine ⟨idempotencyMaterial_apart_iff, bucketMaterial_apart_iff config, ?_, ?_⟩
  · intro m c m' c'
    rw [customerKey_eq, customerKey_eq]
    exact pair_apart_iff m c m' c'
  · intro i i' p p'
    rw [credentialKey_eq, credentialKey_eq]
    exact pair_apart_iff i p.token i' p'.token

end AX10M
