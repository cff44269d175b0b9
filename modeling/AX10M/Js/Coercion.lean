/-
  The number that a JSON value is taken for in arithmetic.

  An array has the text of its items, an object the text `[object Object]`, unless it has a field
  `toString`: such an object has no text and no number, and throws a `TypeError`.
-/
import AX10M.Js.Double
import AX10M.Js.Json
import AX10M.Js.Numeral

namespace Js

/-- What is thrown: a `TypeError`, or an `Error` with a message. -/
inductive JsError where
  | typeError
  | error (message : String)
  deriving DecidableEq

theorem map_eq_ok {ε α β : Type} {e : Except ε α} {f : α → β} {y : β} :
    e.map f = .ok y ↔ ∃ x, e = .ok x ∧ f x = y := by
  cases e with
  | error e => simp [Except.map]
  | ok x => simp [Except.map]

theorem mapError_eq_ok {ε ε' α : Type} {g : ε → ε'} {e : Except ε α} {x : α} :
    e.mapError g = .ok x ↔ e = .ok x := by
  cases e with
  | error e => simp [Except.mapError]
  | ok y => simp [Except.mapError]

theorem bind_eq_ok {ε α β : Type} {e : Except ε α} {f : α → Except ε β} {y : β} :
    (e >>= f) = .ok y ↔ ∃ x, e = .ok x ∧ f x = .ok y := by
  cases e with
  | error e => simp [bind, Except.bind]
  | ok x => simp [bind, Except.bind]

/-- A list of computations gives what each of them gives. -/
theorem mapM_eq_ok {ε α β : Type} {f : α → Except ε β} {l : List α} {ys : List β} :
    l.mapM f = .ok ys ↔ List.Forall₂ (fun x y => f x = .ok y) l ys := by
  induction l generalizing ys with
  | nil =>
    rw [List.forall₂_nil_left_iff]
    exact ⟨fun h => (Except.ok.inj h).symm, fun h => congrArg Except.ok h.symm⟩
  | cons x l ih =>
    rw [List.mapM_cons, List.forall₂_cons_left_iff]
    constructor
    · intro h
      cases hx : f x with
      | error e =>
        rw [hx] at h
        cases h
      | ok y =>
        cases hl : l.mapM f with
        | error e =>
          rw [hx, hl] at h
          cases h
        | ok ys' =>
          rw [hx, hl] at h
          exact ⟨y, ys', rfl, ih.1 hl, (Except.ok.inj h).symm⟩
    · rintro ⟨y, ys', hx, hl, rfl⟩
      rw [hx, ih.2 hl]
      rfl

theorem ok_of_mapM {ε α β : Type} {f : α → Except ε β} {l : List α} {ys : List β}
    (h : l.mapM f = .ok ys) {x : α} (hx : x ∈ l) : ∃ y, f x = .ok y := by
  have hall := mapM_eq_ok.1 h
  induction hall with
  | nil => cases hx
  | cons hy hrest ih =>
    rcases List.mem_cons.1 hx with rfl | hx
    · exact ⟨_, hy⟩
    · exact ih (mapM_eq_ok.2 hrest) hx

theorem exists_of_mapM {ε α β : Type} {f : α → Except ε β} {l : List α} {ys : List β}
    (h : l.mapM f = .ok ys) {y : β} (hy : y ∈ ys) : ∃ x ∈ l, f x = .ok y := by
  have hall := mapM_eq_ok.1 h
  induction hall with
  | nil => cases hy
  | cons hx hrest ih =>
    rcases List.mem_cons.1 hy with rfl | hy
    · exact ⟨_, List.mem_cons_self, hx⟩
    · obtain ⟨x, hmem, hx⟩ := ih (mapM_eq_ok.2 hrest) hy
      exact ⟨x, List.mem_cons_of_mem _ hmem, hx⟩

/-! ### Texts -/

/-- The text of an object, which no field may stand for. -/
def objectText (fields : Record) : Except JsError String :=
  if (Record.get fields "toString").isSome then .error .typeError else .ok "[object Object]"

mutual

/-- The text of an item of an array. -/
def itemText : Json → Except JsError String
  | .null => .ok ""
  | .bool b => .ok (if b then "true" else "false")
  | .num x => .ok (String.ofList (numberText x))
  | .str s => .ok s
  | .arr xs => joinedText xs
  | .obj fields => objectText fields

/-- The texts of items, with commas between them. -/
def joinedText : List Json → Except JsError String
  | [] => .ok ""
  | [x] => itemText x
  | x :: y :: rest => do
    let first ← itemText x
    let others ← joinedText (y :: rest)
    pure (first ++ "," ++ others)

end

/-! ### Numbers -/

/-- A digit of a base up to 16. -/
def radixDigit (base : ℕ) (c : Char) : Option ℕ :=
  let d := if c.isDigit then some (c.toNat - '0'.toNat)
    else if 'a' ≤ c ∧ c ≤ 'f' then some (c.toNat - 'a'.toNat + 10)
    else if 'A' ≤ c ∧ c ≤ 'F' then some (c.toNat - 'A'.toNat + 10)
    else none
  d.filter fun d => d < base

/-- The number of digits of a base. -/
def radixNumber (base : ℕ) (cs : List Char) : Option ℕ :=
  if cs = [] then none
  else cs.foldl (fun n c => do pure ((← n) * base + (← radixDigit base c))) (some 0)

/-- The number that a text is. -/
def stringToNumber (s : String) : Double ℚ :=
  match trimList s.toList with
  | '0' :: 'x' :: cs | '0' :: 'X' :: cs => ofNat (radixNumber 16 cs)
  | '0' :: 'o' :: cs | '0' :: 'O' :: cs => ofNat (radixNumber 8 cs)
  | '0' :: 'b' :: cs | '0' :: 'B' :: cs => ofNat (radixNumber 2 cs)
  | cs =>
    if cs = "Infinity".toList ∨ cs = "+Infinity".toList then .inf false
    else if cs = "-Infinity".toList then .inf true
    else match numberOf s with
      | some x => .fin x
      | none => .nan
where
  ofNat : Option ℕ → Double ℚ
  | some n => .fin n
  | none => .nan

/-- The number of a value, `none` for `undefined`. -/
def toNumber : Option Json → Except JsError (Double ℚ)
  | none => .ok .nan
  | some .null => .ok 0
  | some (.bool b) => .ok (if b then 1 else 0)
  | some (.num x) => .ok (.fin x)
  | some (.str s) => .ok (stringToNumber s)
  | some (.arr xs) => (joinedText xs).map stringToNumber
  | some (.obj fields) => (objectText fields).map stringToNumber

@[simp] theorem toNumber_none : toNumber none = .ok .nan := rfl

@[simp] theorem toNumber_num (x : ℚ) : toNumber (some (.num x)) = .ok (.fin x) := rfl

example : stringToNumber " 0x1F " = .fin 31 := by rfl

end Js
