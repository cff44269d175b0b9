/-
  Insertion-ordered maps: `Map<K, V>` of the language.

  The entries are kept in insertion order, one for each key; setting a present
  key keeps its place.
-/
import Mathlib.Algebra.Group.Defs
import Mathlib.Algebra.Group.Basic
import Mathlib.Data.List.Nodup

namespace Js

/-- An insertion-ordered map; no key occurs twice. -/
structure Map (κ ν : Type*) where
  entries : List (κ × ν)
  nodup : (entries.map Prod.fst).Nodup

namespace Map

variable {κ ν : Type*}

/-- The map without entries. -/
def empty : Map κ ν := ⟨[], List.nodup_nil⟩

instance : Inhabited (Map κ ν) := ⟨empty⟩

/-- The keys, in insertion order. -/
def keys (m : Map κ ν) : List κ := m.entries.map Prod.fst

/-- The values, in insertion order. -/
def values (m : Map κ ν) : List ν := m.entries.map Prod.snd

variable [DecidableEq κ]

/-- The value of a key, if it is present. -/
def get (m : Map κ ν) (k : κ) : Option ν := (m.entries.find? fun p => p.1 = k).map Prod.snd

/-- Whether a key is present. -/
def has (m : Map κ ν) (k : κ) : Bool := (m.get k).isSome

theorem get_eq_none_iff {m : Map κ ν} {k : κ} : m.get k = none ↔ k ∉ m.keys := by
  simp only [get, keys, Option.map_eq_none_iff, List.find?_eq_none, decide_eq_true_eq,
    List.mem_map, not_exists, not_and]

theorem map_replace_fst (l : List (κ × ν)) (k : κ) (v : ν) :
    (l.map fun p => if p.1 = k then (k, v) else p).map Prod.fst = l.map Prod.fst := by
  rw [List.map_map]
  refine List.map_congr_left fun p _ => ?_
  by_cases h : p.1 = k <;> simp [h]

/-- Set the value of a key: in its place if it is present, at the end otherwise. -/
def set (m : Map κ ν) (k : κ) (v : ν) : Map κ ν :=
  if h : m.has k then
    ⟨m.entries.map fun p => if p.1 = k then (k, v) else p, by
      rw [map_replace_fst]; exact m.nodup⟩
  else
    ⟨m.entries ++ [(k, v)], by
      have hk : k ∉ m.keys := get_eq_none_iff.1 (by simpa [has] using h)
      rw [List.map_append]
      exact m.nodup.append (List.nodup_singleton k)
        (List.disjoint_singleton.2 hk)⟩

@[simp] theorem get_empty (k : κ) : (empty : Map κ ν).get k = none := rfl

@[simp] theorem has_empty (k : κ) : (empty : Map κ ν).has k = false := rfl

theorem find?_replace (l : List (κ × ν)) (k : κ) (v : ν) (k' : κ) :
    ((l.map fun p => if p.1 = k then (k, v) else p).find? fun p => p.1 = k').map Prod.snd =
      if k' = k then (l.find? fun p => p.1 = k).map fun _ => v
      else (l.find? fun p => p.1 = k').map Prod.snd := by
  induction l with
  | nil => simp
  | cons p l ih =>
    by_cases hk : k' = k
    · subst hk
      by_cases hp : p.1 = k'
      · simp [hp]
      · simpa [hp] using ih
    · by_cases hp : p.1 = k
      · have hkk : ¬ k = k' := fun h => hk h.symm
        simpa [hp, hk, hkk] using ih
      · by_cases hp' : p.1 = k'
        · simp [hp', hk]
        · simpa [hp, hp', hk] using ih

theorem get_set (m : Map κ ν) (k : κ) (v : ν) (k' : κ) :
    (m.set k v).get k' = if k' = k then some v else m.get k' := by
  unfold set
  split
  next h =>
    rw [get, find?_replace]
    by_cases hk : k' = k
    · rw [if_pos hk, if_pos hk]
      obtain ⟨p, hp⟩ : ∃ p, m.entries.find? (fun p => p.1 = k) = some p := by
        simpa [has, get, Option.isSome_iff_exists] using h
      rw [hp]; rfl
    · rw [if_neg hk, if_neg hk]; rfl
  next h =>
    have hk : m.get k = none := by simpa [has] using h
    by_cases he : k' = k
    · subst he
      have hf : m.entries.find? (fun p => p.1 = k') = none := by simpa [get] using hk
      simp [get, List.find?_append, hf]
    · have hkk : ¬ k = k' := fun h => he h.symm
      simp [get, List.find?_append, he, hkk]

@[simp] theorem get_set_self (m : Map κ ν) (k : κ) (v : ν) : (m.set k v).get k = some v := by
  rw [get_set, if_pos rfl]

theorem get_set_ne (m : Map κ ν) {k k' : κ} (h : k' ≠ k) (v : ν) :
    (m.set k v).get k' = m.get k' := by
  rw [get_set, if_neg h]

theorem mem_entries_of_get {m : Map κ ν} {k : κ} {v : ν} (h : m.get k = some v) :
    (k, v) ∈ m.entries := by
  obtain ⟨p, hp, rfl⟩ := Option.map_eq_some_iff.1 h
  have hk : p.1 = k := by simpa using List.find?_some hp
  exact hk ▸ List.mem_of_find?_eq_some hp

/-- The entries are the keys with their values. -/
theorem get_eq_some_iff {m : Map κ ν} {k : κ} {v : ν} :
    m.get k = some v ↔ (k, v) ∈ m.entries := by
  constructor
  · exact mem_entries_of_get
  · intro h
    cases hg : m.get k with
    | none => exact absurd (List.mem_map_of_mem h) (get_eq_none_iff.1 hg)
    | some v' =>
      have heq := List.inj_on_of_nodup_map m.nodup h (mem_entries_of_get hg) rfl
      exact congrArg some (congrArg Prod.snd heq).symm

/-- Setting a key adds no other entry. -/
theorem mem_entries_set {m : Map κ ν} {k : κ} {v : ν} {p : κ × ν}
    (h : p ∈ (m.set k v).entries) : p ∈ m.entries ∨ p = (k, v) := by
  have hget : (m.set k v).get p.1 = some p.2 := get_eq_some_iff.2 h
  rw [get_set] at hget
  split_ifs at hget with hk
  · right
    rw [← hk, Option.some.inj hget]
  · exact .inl (get_eq_some_iff.1 hget)

/-- Add to the number stored under a key (`m.set(k, (m.get(k) ?? 0) + d)`). -/
def add [Zero ν] [Add ν] (m : Map κ ν) (k : κ) (d : ν) : Map κ ν :=
  m.set k ((m.get k).getD 0 + d)

theorem getD_add [AddZeroClass ν] (m : Map κ ν) (k : κ) (d : ν) (k' : κ) :
    ((m.add k d).get k').getD 0 = (m.get k').getD 0 + if k' = k then d else 0 := by
  rw [add, get_set]
  by_cases h : k' = k
  · subst h; simp
  · simp [h]

end Map

end Js
