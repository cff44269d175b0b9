/-
  JSON values, and the records (`Record<string, unknown>`) of a ledger entry.

  Numbers are exact rationals (`number` without rounding); a field whose value
  is `undefined` is absent.
-/
import Mathlib.Data.Rat.Defs

namespace Js

/-- A JSON value. -/
inductive Json where
  | null
  | bool (b : Bool)
  | num (x : ℚ)
  | str (s : String)
  | arr (xs : List Json)
  | obj (fields : List (String × Json))

/-- The fields of an object, in insertion order. -/
abbrev Record := List (String × Json)

namespace Record

/-- The value of a field, `none` for `undefined`. -/
def get (d : Record) (field : String) : Option Json := d.lookup field

@[simp] theorem get_nil (field : String) : get [] field = none := rfl

theorem get_cons (k : String) (v : Json) (d : Record) (field : String) :
    get ((k, v) :: d) field = if field = k then some v else get d field := by
  by_cases h : field = k
  · simp [get, h]
  · have hb : (field == k) = false := beq_false_of_ne h
    simp [get, List.lookup_cons, h, hb]

theorem get_append (d d' : Record) (field : String) :
    get (d ++ d') field = (get d field).or (get d' field) := by
  induction d with
  | nil => rfl
  | cons p d ih =>
    obtain ⟨k, v⟩ := p
    rw [List.cons_append, get_cons, get_cons, ih]
    by_cases h : field = k <;> simp [h]

/-- A field that is present only when it has a value. -/
def opt (field : String) (v : Option Json) : Record :=
  match v with
  | some v => [(field, v)]
  | none => []

theorem get_opt (field : String) (v : Option Json) (field' : String) :
    get (opt field v) field' = if field' = field then v else none := by
  cases v <;> simp [opt, get_cons]

end Record

/-- A finite number, `0` otherwise. -/
def num : Option Json → ℚ
  | some (.num x) => x
  | _ => 0

/-- A non-empty string. -/
def str : Option Json → Option String
  | some (.str s) => if s = "" then none else some s
  | _ => none

@[simp] theorem num_num (x : ℚ) : num (some (.num x)) = x := rfl
@[simp] theorem num_none : num none = 0 := rfl
@[simp] theorem str_none : str none = none := rfl

theorem str_str {s : String} (h : s ≠ "") : str (some (.str s)) = some s := by
  simp [str, h]

theorem str_eq_some {v : Option Json} {s : String} (h : str v = some s) :
    v = some (.str s) ∧ s ≠ "" := by
  unfold str at h
  split at h
  · split at h
    · cases h
    · cases h; exact ⟨rfl, ‹_›⟩
  · cases h

end Js
