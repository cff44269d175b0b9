/-
  Reading the text of a value back (`JSON.parse`).

  The reader covers the texts that `JSON.stringify` writes, which have no white space.  It is given
  a budget; `parse_stringify`: the length of the text is enough.
-/
import AX10M.Js.Stringify

namespace Js

/-! ## The reader -/

/-- The characters up to the quote that ends them, and what follows it. -/
def readQuoted : ℕ → List Char → Option (List Char × List Char)
  | 0, _ => none
  | n + 1, cs =>
    match unescape cs with
    | some (c, rest) => (readQuoted n rest).map fun p => (c :: p.1, p.2)
    | none => if cs.head? = some '"' then some ([], cs.tail) else none

/-- A key with its colon, and what follows it. -/
def readKey (n : ℕ) (cs : List Char) : Option (String × List Char) :=
  if cs.head? = some '"' then
    (readQuoted n cs.tail).bind fun p =>
      if p.2.head? = some ':' then some (String.ofList p.1, p.2.tail) else none
  else none

mutual

/-- A value, and what follows it. -/
def readValue : ℕ → List Char → Option (Json × List Char)
  | 0, _ => none
  | _, [] => none
  | n + 1, c :: cs =>
    if c = 'n' then (cs.dropPrefix? ['u', 'l', 'l']).map fun rest => (.null, rest)
    else if c = 't' then (cs.dropPrefix? ['r', 'u', 'e']).map fun rest => (.bool true, rest)
    else if c = 'f' then (cs.dropPrefix? ['a', 'l', 's', 'e']).map fun rest => (.bool false, rest)
    else if c = '"' then (readQuoted n cs).map fun p => (.str (String.ofList p.1), p.2)
    else if c = '[' then
      if cs.head? = some ']' then some (.arr [], cs.tail)
      else
        (readValue n cs).bind fun p =>
          (readItems n p.2).map fun q => (.arr (p.1 :: q.1), q.2)
    else if c = '{' then
      if cs.head? = some '}' then some (.obj [], cs.tail)
      else
        (readKey n cs).bind fun k =>
          (readValue n k.2).bind fun p =>
            (readFields n p.2).map fun q => (.obj ((k.1, p.1) :: q.1), q.2)
    else (decimalPrefix (c :: cs)).map fun p => (.num p.1, p.2)

/-- The other items of an array, and what follows it. -/
def readItems : ℕ → List Char → Option (List Json × List Char)
  | 0, _ => none
  | _, [] => none
  | n + 1, c :: cs =>
    if c = ']' then some ([], cs)
    else if c = ',' then
      (readValue n cs).bind fun p => (readItems n p.2).map fun q => (p.1 :: q.1, q.2)
    else none

/-- The other properties of an object, and what follows it. -/
def readFields : ℕ → List Char → Option (List (String × Json) × List Char)
  | 0, _ => none
  | _, [] => none
  | n + 1, c :: cs =>
    if c = '}' then some ([], cs)
    else if c = ',' then
      (readKey n cs).bind fun k =>
        (readValue n k.2).bind fun p =>
          (readFields n p.2).map fun q => ((k.1, p.1) :: q.1, q.2)
    else none

end

/-- The value of a text (`JSON.parse`). -/
def parse (s : String) : Option Json :=
  (readValue s.toList.length s.toList).bind fun p => if p.2 = [] then some p.1 else none

/-! ## Texts that are read back -/

theorem escape_ne_nil (c : Char) : escape c ≠ [] := by
  unfold escape
  split_ifs <;> simp

theorem length_lt_quoted (cs : List Char) : cs.length < (quoted cs).length := by
  induction cs with
  | nil => simp [quoted]
  | cons c cs ih =>
    have hpos : 0 < (escape c).length := List.length_pos_iff.2 (escape_ne_nil c)
    simp only [quoted, List.flatMap_cons, List.length_append, List.length_cons] at ih ⊢
    omega

theorem readQuoted_quoted {cs : List Char} {n : ℕ} (h : cs.length < n) (rest : List Char) :
    readQuoted n (quoted cs ++ rest) = some (cs, rest) := by
  induction cs generalizing n with
  | nil =>
    obtain ⟨n, rfl⟩ : ∃ m, n = m + 1 := ⟨n - 1, by simp at h; omega⟩
    rfl
  | cons c cs ih =>
    rw [List.length_cons] at h
    obtain ⟨n, rfl⟩ : ∃ m, n = m + 1 := ⟨n - 1, by omega⟩
    have htext : quoted (c :: cs) ++ rest = escape c ++ (quoted cs ++ rest) := by simp [quoted]
    have hrest : readQuoted n (quoted cs ++ rest) = some (cs, rest) := ih (by omega)
    rw [htext, readQuoted, unescape_escape]
    simp only [hrest, Option.map_some]

theorem readKey_quote {k : String} {n : ℕ} (h : (quote k).length ≤ n) (rest : List Char) :
    readKey n (quote k ++ ':' :: rest) = some (k, rest) := by
  have hlen := length_lt_quoted k.toList
  rw [quote, List.length_cons] at h
  rw [readKey, quote, List.cons_append, List.head?_cons, if_pos rfl, List.tail_cons,
    readQuoted_quoted (by omega), Option.bind_some, List.head?_cons, if_pos rfl, List.tail_cons,
    String.ofList_toList]

theorem stringify_pos (v : Json) : 0 < (stringify v).length := by
  obtain ⟨c, cs, hv, -⟩ := stringify_lead v
  rw [hv]
  exact Nat.succ_pos _

/-- A value does not start with a closing bracket. -/
theorem stringify_head_ne (v : Json) (rest : List Char) :
    (stringify v ++ rest).head? ≠ some ']' := by
  intro h
  cases hrest : stringify v ++ rest with
  | nil => simp [hrest] at h
  | cons c cs =>
    rw [hrest, List.head?_cons, Option.some.injEq] at h
    exact stringify_ne (by rw [h]; decide) hrest

mutual

/-- A value is read back from its text, whatever follows. -/
theorem readValue_stringify : ∀ (v : Json) (n : ℕ) (rest : List Char), AllDecimal v → Ends rest →
    (stringify v).length ≤ n → readValue n (stringify v ++ rest) = some (v, rest)
  | v, 0, rest, _, _, h => absurd h (Nat.not_le.2 (stringify_pos v))
  | .null, n + 1, rest, _, _, _ => by
    simp [stringify, readValue, List.dropPrefix?]
  | .bool b, n + 1, rest, _, _, _ => by
    cases b <;> simp [stringify, readValue, List.dropPrefix?]
  | .num x, n + 1, rest, hv, hr, _ => by
    obtain ⟨c, cs, hc, hd⟩ := numberText_lead x
    have hread := decimalPrefix_numberText hv hr
    have hn : c ≠ 'n' ∧ c ≠ 't' ∧ c ≠ 'f' ∧ c ≠ '"' ∧ c ≠ '[' ∧ c ≠ '{' := by
      rcases hd with rfl | hd
      · decide
      · refine ⟨?_, ?_, ?_, ?_, ?_, ?_⟩ <;> rintro rfl <;> exact absurd hd (by decide)
    rw [hc, List.cons_append] at hread
    rw [stringify, hc, List.cons_append, readValue]
    simp only [hn, if_false, hread, Option.map_some]
  | .str s, n + 1, rest, _, _, h => by
    have hlen := length_lt_quoted s.toList
    rw [stringify, quote, List.length_cons] at h
    rw [stringify, quote, List.cons_append, readValue, if_neg (by decide), if_neg (by decide),
      if_neg (by decide), if_pos rfl, readQuoted_quoted (by omega), Option.map_some,
      String.ofList_toList]
  | .arr [], n + 1, rest, _, _, _ => by
    simp [stringify, readValue]
  | .arr (x :: xs), n + 1, rest, hv, hr, h => by
    rw [stringify, List.length_cons, List.length_append] at h
    simp only [AllDecimal, AllDecimalItems] at hv
    have hx := readValue_stringify x n (moreItems xs ++ rest) hv.1 (ends_moreItems _ _) (by omega)
    have hxs := readItems_moreItems xs n rest hv.2 (by omega)
    rw [stringify, List.cons_append, List.append_assoc, readValue, if_neg (by decide),
      if_neg (by decide), if_neg (by decide), if_neg (by decide), if_pos rfl,
      if_neg (stringify_head_ne x _), hx, Option.bind_some, hxs, Option.map_some]
  | .obj [], n + 1, rest, _, _, _ => by
    simp [stringify, readValue]
  | .obj ((k, v) :: fields), n + 1, rest, hv, hr, h => by
    rw [stringify, List.length_cons, List.length_append, List.length_cons, List.length_append] at h
    simp only [AllDecimal, AllDecimalFields] at hv
    have hkey := readKey_quote (k := k) (n := n) (by omega)
      (stringify v ++ moreFields fields ++ rest)
    have hvalue := readValue_stringify v n (moreFields fields ++ rest) hv.1 (ends_moreFields _ _)
      (by omega)
    have hfields := readFields_moreFields fields n rest hv.2 (by omega)
    rw [stringify, List.cons_append, List.append_assoc, List.cons_append, readValue,
      if_neg (by decide), if_neg (by decide), if_neg (by decide), if_neg (by decide),
      if_neg (by decide), if_pos rfl, if_neg (by simp [quote]), hkey, Option.bind_some,
      List.append_assoc, hvalue, Option.bind_some, hfields, Option.map_some]

theorem readItems_moreItems : ∀ (xs : List Json) (n : ℕ) (rest : List Char), AllDecimalItems xs →
    (moreItems xs).length ≤ n → readItems n (moreItems xs ++ rest) = some (xs, rest)
  | xs, 0, rest, _, h => by cases xs <;> simp [moreItems] at h
  | [], n + 1, rest, _, _ => by simp [moreItems, readItems]
  | x :: xs, n + 1, rest, hv, h => by
    rw [moreItems, List.length_cons, List.length_append] at h
    rw [AllDecimalItems] at hv
    have hx := readValue_stringify x n (moreItems xs ++ rest) hv.1 (ends_moreItems _ _) (by omega)
    have hxs := readItems_moreItems xs n rest hv.2 (by omega)
    rw [moreItems, List.cons_append, List.append_assoc, readItems, if_neg (by decide), if_pos rfl,
      hx, Option.bind_some, hxs, Option.map_some]

theorem readFields_moreFields : ∀ (fields : List (String × Json)) (n : ℕ) (rest : List Char),
    AllDecimalFields fields → (moreFields fields).length ≤ n →
    readFields n (moreFields fields ++ rest) = some (fields, rest)
  | fields, 0, rest, _, h => by cases fields <;> simp [moreFields] at h
  | [], n + 1, rest, _, _ => by simp [moreFields, readFields]
  | (k, v) :: fields, n + 1, rest, hv, h => by
    rw [moreFields, List.length_cons, List.length_append, List.length_cons, List.length_append] at h
    rw [AllDecimalFields] at hv
    have hkey := readKey_quote (k := k) (n := n) (by omega)
      (stringify v ++ moreFields fields ++ rest)
    have hvalue := readValue_stringify v n (moreFields fields ++ rest) hv.1 (ends_moreFields _ _)
      (by omega)
    have hfields := readFields_moreFields fields n rest hv.2 (by omega)
    rw [moreFields, List.cons_append, List.append_assoc, List.cons_append, readFields,
      if_neg (by decide), if_pos rfl, hkey, Option.bind_some, List.append_assoc, hvalue,
      Option.bind_some, hfields, Option.map_some]

end

/-- What is written is read back. -/
theorem parse_stringify {v : Json} (h : AllDecimal v) :
    parse (String.ofList (stringify v)) = some v := by
  have hread := readValue_stringify v (stringify v).length [] h ends_nil le_rfl
  rw [List.append_nil] at hread
  rw [parse, String.toList_ofList, hread, Option.bind_some, if_pos rfl]

end Js
