/-
  The training corpus of the recovery engine, joined from the ledger (`ledger-samples.ts`).

  An invoice gives a sample if the ledger has a feature snapshot of it and an outcome: a
  recovery, or a failed charge.  The amount that it counts for may come from its snapshot and be any
  value; what has no number throws.
-/
import AX10M.Attribution.Ledger
import AX10M.Js.Coercion
import AX10M.Js.Map
import Mathlib.Data.List.Induction

namespace AX10M

open Js

/-- One labelled training example. -/
structure TrainingSample where
  features : Json
  /-- did this failed invoice ultimately recover when acted on? -/
  recovered : Bool
  weight : Double ℚ

/-- What a sample counts for: one, or by an amount that is to be taken for a number. -/
inductive SampleWeight where
  | one
  | byAmount (amt : Option Json)

/-- `weightByAmount ? Math.max(1, amt / 100) : 1`. -/
def SampleWeight.value : SampleWeight → Except JsError (Double ℚ)
  | one => .ok 1
  | byAmount amt => (toNumber amt).map fun amt => .max 1 (amt / .fin 100)

/-- A snapshot with its outcome. -/
structure LabelledSnapshot where
  features : Json
  recovered : Bool
  weight : SampleWeight

/-- A field of a value, `undefined` if it is no object that has it. -/
def snapshotField (f : Json) (field : String) : Option Json :=
  match f with
  | .obj fields => Record.get fields field
  | _ => none

namespace LedgerSamples

/-- What the reader of a ledger has seen. -/
structure Seen where
  features : Map String Json := Map.empty
  amountMinor : Map String ℚ := Map.empty
  recovered : List String := []
  failed : List String := []

/-- A value that is an object. -/
def object? : Option Json → Option Json
  | some (.obj fields) => some (.obj fields)
  | some (.arr xs) => some (.arr xs)
  | _ => none

/-- Read an entry. -/
def read (seen : Seen) (e : LedgerEntry) : Seen :=
  match str (e.field "invoiceId") with
  | none => seen
  | some id =>
    match e.type with
    | .recoveryPlanned =>
      match object? (e.field "features") with
      | some f => { seen with features := seen.features.set id f }
      | none => seen
    | .caseRecovered =>
      { seen with
        recovered := seen.recovered.insert id
        amountMinor := match e.field "amount" with
          | some (.num x) => seen.amountMinor.set id x
          | _ => seen.amountMinor }
    | .chargeFailed => { seen with failed := seen.failed.insert id }
    | _ => seen

/-- Read a ledger. -/
def readAll (entries : List LedgerEntry) : Seen := entries.foldl read {}

/-- The sample of an invoice, if its outcome is known. -/
def Seen.sample (seen : Seen) (weightByAmount : Bool) (id : String) (f : Json) :
    Option LabelledSnapshot :=
  let didRecover := decide (id ∈ seen.recovered)
  if !didRecover && decide (id ∉ seen.failed) then none
  else
    let amt := ((seen.amountMinor.get id).map Json.num).or (snapshotField f "amountMinor")
    some ⟨f, didRecover, if weightByAmount then .byAmount amt else .one⟩

/-- The samples of a ledger, each with its invoice. -/
def labelled (entries : List LedgerEntry) (weightByAmount : Bool := true) :
    List (String × LabelledSnapshot) :=
  let seen := readAll entries
  seen.features.entries.filterMap fun (id, f) =>
    (seen.sample weightByAmount id f).map fun sample => (id, sample)

end LedgerSamples

/-- The labelled samples of a ledger. -/
def samplesFromLedger (entries : List LedgerEntry) (weightByAmount : Bool := true) :
    Except JsError (List TrainingSample) :=
  (LedgerSamples.labelled entries weightByAmount).mapM fun p =>
    p.2.weight.value.map fun weight => ⟨p.2.features, p.2.recovered, weight⟩

namespace LedgerSamples

variable {l : List LedgerEntry} {e : LedgerEntry} {i : String}

theorem readAll_concat (l : List LedgerEntry) (e : LedgerEntry) :
    readAll (l ++ [e]) = read (readAll l) e := List.foldl_concat ..

theorem str_eq_some_iff (hi : i ≠ "") : str (e.field "invoiceId") = some i ↔ e.isFor i := by
  rw [LedgerEntry.isFor_iff]
  constructor
  · exact fun h => (str_eq_some h).1
  · intro h
    rw [h, str_str hi]

theorem mem_read_recovered (seen : Seen) (e : LedgerEntry) (i : String) :
    i ∈ (read seen e).recovered ↔
      i ∈ seen.recovered ∨ e.type = .caseRecovered ∧ str (e.field "invoiceId") = some i := by
  unfold read
  cases str (e.field "invoiceId") with
  | none => simp
  | some id =>
    cases e.type with
    | caseRecovered => simp [List.mem_insert_iff, or_comm, eq_comm]
    | recoveryPlanned => cases object? (e.field "features") <;> simp
    | _ => simp

theorem mem_read_failed (seen : Seen) (e : LedgerEntry) (i : String) :
    i ∈ (read seen e).failed ↔
      i ∈ seen.failed ∨ e.type = .chargeFailed ∧ str (e.field "invoiceId") = some i := by
  unfold read
  cases str (e.field "invoiceId") with
  | none => simp
  | some id =>
    cases e.type with
    | chargeFailed => simp [List.mem_insert_iff, or_comm, eq_comm]
    | recoveryPlanned => cases object? (e.field "features") <;> simp
    | _ => simp

/-- An invoice has recovered in the eyes of the reader if an entry says so. -/
theorem mem_recovered (hi : i ≠ "") :
    i ∈ (readAll l).recovered ↔ ∃ e ∈ l, e.type = .caseRecovered ∧ e.isFor i := by
  induction l using List.reverseRecOn with
  | nil => simp [readAll]
  | append_singleton l e ih =>
    rw [readAll_concat, mem_read_recovered, ih, str_eq_some_iff hi]
    simp only [List.mem_append, List.mem_singleton, or_and_right, exists_or, exists_eq_left]

/-- An invoice has failed in the eyes of the reader if an entry says so. -/
theorem mem_failed (hi : i ≠ "") :
    i ∈ (readAll l).failed ↔ ∃ e ∈ l, e.type = .chargeFailed ∧ e.isFor i := by
  induction l using List.reverseRecOn with
  | nil => simp [readAll]
  | append_singleton l e ih =>
    rw [readAll_concat, mem_read_failed, ih, str_eq_some_iff hi]
    simp only [List.mem_append, List.mem_singleton, or_and_right, exists_or, exists_eq_left]

/-- The reader has a snapshot of an invoice if an entry carries one. -/
theorem features_isSome (hi : i ≠ "") (h : ∃ e ∈ l, e.type = .recoveryPlanned ∧ e.isFor i ∧
    (object? (e.field "features")).isSome) : ((readAll l).features.get i).isSome := by
  induction l using List.reverseRecOn with
  | nil => simp at h
  | append_singleton l e ih =>
    rw [readAll_concat]
    have kept : ((readAll l).features.get i).isSome → ((read (readAll l) e).features.get i).isSome := by
      intro hl
      unfold read
      cases str (e.field "invoiceId") with
      | none => exact hl
      | some id =>
        cases e.type with
        | recoveryPlanned =>
          cases object? (e.field "features") with
          | none => exact hl
          | some f =>
            rw [Map.get_set]
            split
            · rfl
            · exact hl
        | _ => exact hl
    obtain ⟨e', he', ht, hf, ho⟩ := h
    rcases List.mem_append.1 he' with he' | he'
    · exact kept (ih ⟨e', he', ht, hf, ho⟩)
    · obtain rfl := List.mem_singleton.1 he'
      obtain ⟨f, hfeat⟩ := Option.isSome_iff_exists.1 ho
      unfold read
      simp only [(str_eq_some_iff hi).2 hf, ht, hfeat, Map.get_set_self, Option.isSome_some]

/-- An invoice with a snapshot and an outcome is labelled, as recovered exactly if an entry says
    so. -/
theorem labelled_of_failed (hi : i ≠ "") (w : Bool)
    (hplan : ∃ e ∈ l, e.type = .recoveryPlanned ∧ e.isFor i ∧ (object? (e.field "features")).isSome)
    (hfail : ∃ e ∈ l, e.type = .chargeFailed ∧ e.isFor i) :
    ∃ sample, (i, sample) ∈ labelled l w ∧
      (sample.recovered = true ↔ ∃ e ∈ l, e.type = .caseRecovered ∧ e.isFor i) := by
  obtain ⟨f, hf⟩ := Option.isSome_iff_exists.1 (features_isSome hi hplan)
  have hmem : (i, f) ∈ (readAll l).features.entries := by
    obtain ⟨p, hp, rfl⟩ := Option.map_eq_some_iff.1 hf
    have hk := List.find?_some hp
    rw [decide_eq_true_eq] at hk
    rw [← hk]
    exact List.mem_of_find?_eq_some hp
  have hfailed := (mem_failed hi).2 hfail
  obtain ⟨sample, hsample, hrec⟩ : ∃ sample, (readAll l).sample w i f = some sample ∧
      sample.recovered = decide (i ∈ (readAll l).recovered) := by
    refine ⟨_, if_neg ?_, rfl⟩
    simp [hfailed]
  refine ⟨sample, List.mem_filterMap.2 ⟨(i, f), hmem, ?_⟩, ?_⟩
  · simp only [hsample, Option.map_some]
  · rw [← mem_recovered hi, hrec, decide_eq_true_eq]

end LedgerSamples

end AX10M
