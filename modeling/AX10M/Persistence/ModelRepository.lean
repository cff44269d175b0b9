/-
  The store of recovery models (`model-repo.ts` of `@ax10m/persistence`).

  A table of champions, with a version as its primary key and a flag of the one that is active.
  The table is that of a list of champions, the last one being active (`getActiveChampion_rowsOf`):
  a transaction that commits adds one (`commit_rowsOf`), and one that read the last version before
  another committed does not commit (`commit_stale`).
-/
import Mathlib.Data.List.Sort
import Mathlib.Data.List.Range

namespace AX10M

/-- A row of `recovery_models`. -/
structure StoredModel (W : Type) where
  version : ℕ
  weights : W
  createdAt : String
  active : Bool

namespace ModelRepository

variable {W : Type}

/-- `orderBy(desc(recoveryModels.version)).limit(1)`. -/
def latest (rows : List (StoredModel W)) : Option (StoredModel W) :=
  (rows.insertionSort fun m m' => m'.version ≤ m.version).head?

/-- The active champion's weights. -/
def getActiveChampion (rows : List (StoredModel W)) : Option W :=
  (latest (rows.filter StoredModel.active)).map StoredModel.weights

/-- Highest version number stored (−1 if empty). -/
def latestVersion (rows : List (StoredModel W)) : ℤ :=
  match latest rows with
  | some m => m.version
  | none => -1

/-- `update({ active: false }).where(active)`. -/
def deactivate (m : StoredModel W) : StoredModel W := if m.active then { m with active := false } else m

/-- The update and the insert of a transaction that has read the last version; it is rolled back
    if the version is taken when it commits. -/
def commit (rows : List (StoredModel W)) (last : ℤ) (weights : W) (now : String) :
    Option (ℕ × List (StoredModel W)) :=
  let version := (last + 1).toNat
  if ∃ m ∈ rows, m.version = version then none
  else some (version, rows.map deactivate ++ [⟨version, weights, now, true⟩])

/-! ## The table of a list of champions -/

/-- The rows of champions, each with the time it was saved at. -/
def rowsOf (saved : List (W × String)) : List (StoredModel W) :=
  saved.mapIdx fun n p => ⟨n, p.1, p.2, n + 1 = saved.length⟩

theorem length_rowsOf (saved : List (W × String)) : (rowsOf saved).length = saved.length := by
  simp [rowsOf]

theorem getElem?_rowsOf (saved : List (W × String)) (n : ℕ) :
    (rowsOf saved)[n]? = saved[n]?.map fun p => ⟨n, p.1, p.2, n + 1 = saved.length⟩ := by
  simp [rowsOf]

theorem rowsOf_injective : Function.Injective (rowsOf (W := W)) := by
  intro saved saved' h
  refine List.ext_getElem? fun n => ?_
  have hn : (rowsOf saved)[n]? = (rowsOf saved')[n]? := by rw [h]
  rw [getElem?_rowsOf, getElem?_rowsOf] at hn
  rcases hs : saved[n]? with _ | p <;> rcases hs' : saved'[n]? with _ | p' <;>
    simp only [hs, hs', Option.map_none, Option.map_some, reduceCtorEq, Option.some.injEq,
      StoredModel.mk.injEq, true_and] at hn ⊢
  exact Prod.ext hn.1 hn.2.1

/-- All but the last are inactive. -/
theorem rowsOf_concat (saved : List (W × String)) (p : W × String) :
    rowsOf (saved ++ [p]) = (rowsOf saved).map deactivate ++ [⟨saved.length, p.1, p.2, true⟩] := by
  refine List.ext_getElem? fun n => ?_
  rw [getElem?_rowsOf]
  by_cases hlt : n < saved.length
  · have hne : n + 1 ≠ (saved ++ [p]).length := by
      rw [List.length_append, List.length_singleton]
      omega
    rw [List.getElem?_append_left hlt, List.getElem?_append_left (by simpa [length_rowsOf] using hlt),
      List.getElem?_map, getElem?_rowsOf, List.getElem?_eq_getElem hlt]
    simp only [Option.map_some, deactivate, hne, decide_false]
    split_ifs with hactive
    · rfl
    · rw [Bool.not_eq_true] at hactive
      rw [hactive]
  · rw [List.getElem?_append_right (not_lt.1 hlt),
      List.getElem?_append_right (by simpa [length_rowsOf] using hlt), List.length_map,
      length_rowsOf]
    rcases h : n - saved.length with _ | k
    · obtain rfl : n = saved.length := by omega
      simp
    · simp

theorem version_of_mem {saved : List (W × String)} {m : StoredModel W} (h : m ∈ rowsOf saved) :
    m.version < saved.length := by
  obtain ⟨n, hn⟩ := List.mem_iff_getElem?.1 h
  rw [getElem?_rowsOf] at hn
  obtain ⟨p, hp, rfl⟩ := Option.map_eq_some_iff.1 hn
  exact (List.getElem?_eq_some_iff.1 hp).1

/-- The last champion is on top. -/
theorem latest_concat (rows : List (StoredModel W)) (m : StoredModel W)
    (h : ∀ m' ∈ rows, m'.version < m.version) : latest (rows ++ [m]) = some m := by
  have hperm := List.perm_insertionSort (fun m m' : StoredModel W => m'.version ≤ m.version)
    (rows ++ [m])
  have hsorted : (List.insertionSort (fun m m' : StoredModel W => m'.version ≤ m.version)
      (rows ++ [m])).Pairwise fun m m' => m'.version ≤ m.version :=
    List.pairwise_insertionSort _ _
  unfold latest
  cases hlist : List.insertionSort (fun m m' : StoredModel W => m'.version ≤ m.version)
      (rows ++ [m]) with
  | nil =>
    rw [hlist] at hperm
    simpa using hperm.symm
  | cons top rest =>
    rw [hlist] at hperm hsorted
    have hm : m ∈ top :: rest := hperm.mem_iff.2 (by simp)
    have hle : m.version ≤ top.version := by
      rcases List.mem_cons.1 hm with rfl | hrest
      · exact le_rfl
      · exact List.rel_of_pairwise_cons hsorted hrest
    rcases List.mem_append.1 (hperm.mem_iff.1 List.mem_cons_self) with hold | hnew
    · exact absurd (h top hold) (not_lt.2 hle)
    · rw [List.head?_cons, List.mem_singleton.1 hnew]

theorem latestVersion_rowsOf (saved : List (W × String)) :
    latestVersion (rowsOf saved) = (saved.length : ℤ) - 1 := by
  rcases List.eq_nil_or_concat saved with rfl | ⟨saved, p, rfl⟩
  · rfl
  · rw [List.concat_eq_append, rowsOf_concat, latestVersion, latest_concat _ _ fun m hm => ?_]
    · simp
    · obtain ⟨m', hm', rfl⟩ := List.mem_map.1 hm
      have hversion := version_of_mem hm'
      unfold deactivate
      split_ifs <;> exact hversion

/-- The active champion is the last that was saved. -/
theorem getActiveChampion_rowsOf (saved : List (W × String)) :
    getActiveChampion (rowsOf saved) = saved.getLast?.map Prod.fst := by
  rcases List.eq_nil_or_concat saved with rfl | ⟨saved, p, rfl⟩
  · rfl
  · have hfilter : ((rowsOf saved).map deactivate).filter StoredModel.active = [] := by
      refine List.filter_eq_nil_iff.2 fun m hm => ?_
      obtain ⟨m', -, rfl⟩ := List.mem_map.1 hm
      unfold deactivate
      split_ifs with hactive
      · simp
      · exact hactive
    rw [List.concat_eq_append, rowsOf_concat, getActiveChampion, List.filter_append, hfilter,
      List.getLast?_append]
    rfl

theorem toNat_latestVersion (saved : List (W × String)) :
    (latestVersion (rowsOf saved) + 1).toNat = saved.length := by
  rw [latestVersion_rowsOf]
  omega

/-- A transaction that is alone adds the next version. -/
theorem commit_rowsOf (saved : List (W × String)) (weights : W) (now : String) :
    commit (rowsOf saved) (latestVersion (rowsOf saved)) weights now =
      some (saved.length, rowsOf (saved ++ [(weights, now)])) := by
  unfold commit
  simp only [toNat_latestVersion]
  rw [if_neg, rowsOf_concat]
  rintro ⟨m, hm, hversion⟩
  exact (version_of_mem hm).ne hversion

/-- One that read the last version before another committed does not. -/
theorem commit_stale {saved seen : List (W × String)} (h : seen <+: saved) (hne : seen ≠ saved)
    (weights : W) (now : String) :
    commit (rowsOf saved) (latestVersion (rowsOf seen)) weights now = none := by
  have hlt : seen.length < saved.length :=
    lt_of_le_of_ne h.length_le fun heq => hne (h.eq_of_length heq)
  unfold commit
  simp only [toNat_latestVersion]
  rw [if_pos]
  have hget : (rowsOf saved)[seen.length]? = some ⟨seen.length, saved[seen.length].1,
      saved[seen.length].2, seen.length + 1 = saved.length⟩ := by
    rw [getElem?_rowsOf, List.getElem?_eq_getElem hlt]
    rfl
  exact ⟨_, List.mem_of_getElem? hget, rfl⟩

end ModelRepository

end AX10M
