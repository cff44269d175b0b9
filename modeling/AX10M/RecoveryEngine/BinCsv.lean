/-
  The reader of comma-separated values (`@ax10m/recovery-engine`, `bin-csv.ts`).

  `read_quoted`: in quotes everything is read as it is, and two quotes as one, up to a quote that is
  followed by none.
-/
import Mathlib.Data.List.Basic

namespace AX10M

/-- What has been read of a text: the rows, the fields of the row that is read, and the field. -/
structure CsvState where
  rows : List (List String) := []
  row : List String := []
  field : List Char := []
  inQuotes : Bool := false

namespace CsvState

/-- Characters of the field. -/
def put (st : CsvState) (cs : List Char) : CsvState := { st with field := st.field ++ cs }

/-- The field is over. -/
def endField (st : CsvState) : CsvState :=
  { st with row := st.row ++ [String.ofList st.field], field := [] }

/-- The row is over. -/
def endRow (st : CsvState) : CsvState :=
  { st with rows := st.rows ++ [st.row ++ [String.ofList st.field]], row := [], field := [] }

/-- Read a text. -/
def read (delimiter : Char) : CsvState → List Char → CsvState
  | st, [] => st
  | st, '"' :: cs =>
    match st.inQuotes, cs with
    | true, '"' :: cs => read delimiter (st.put ['"']) cs
    | true, cs => read delimiter { st with inQuotes := false } cs
    | false, cs => read delimiter { st with inQuotes := true } cs
  | st, c :: cs =>
    if st.inQuotes then read delimiter (st.put [c]) cs
    else if c = delimiter then read delimiter st.endField cs
    else if c = '\n' then read delimiter st.endRow cs
    else if c = '\r' then read delimiter st cs
    else read delimiter (st.put [c]) cs

end CsvState

/-- A byte-order mark is left out. -/
def stripBom : List Char → List Char
  | '\uFEFF' :: cs => cs
  | cs => cs

/-- The rows of a text. -/
def parseCsv (text : String) (delimiter : Char := ',') : List (List String) :=
  let st := CsvState.read delimiter {} (stripBom text.toList)
  if st.field.length > 0 ∨ st.row.length > 0 then st.endRow.rows else st.rows

/-! ## What is read -/

/-- The character is read as it is outside of quotes. -/
def Plain (delimiter c : Char) : Prop := c ≠ '"' ∧ c ≠ delimiter ∧ c ≠ '\n' ∧ c ≠ '\r'

/-- The text does not go on with a quote. -/
def NoQuote (cs : List Char) : Prop := ∀ c ∈ cs.head?, c ≠ '"'

namespace CsvState

variable {delimiter c : Char} {st : CsvState} {cs rest : List Char}

theorem put_put (st : CsvState) (cs ds : List Char) : (st.put cs).put ds = st.put (cs ++ ds) := by
  rw [put, put, put, List.append_assoc]

@[simp] theorem put_inQuotes (st : CsvState) (cs : List Char) :
    (st.put cs).inQuotes = st.inQuotes := rfl

theorem put_nil (st : CsvState) : st.put [] = st := by
  rw [put, List.append_nil]

theorem read_cons (h : c ≠ '"') : read delimiter st (c :: cs) =
    if st.inQuotes then read delimiter (st.put [c]) cs
    else if c = delimiter then read delimiter st.endField cs
    else if c = '\n' then read delimiter st.endRow cs
    else if c = '\r' then read delimiter st cs
    else read delimiter (st.put [c]) cs := by
  rw [read]
  exact h

theorem read_inQuotes (hst : st.inQuotes = true) (h : c ≠ '"') :
    read delimiter st (c :: cs) = read delimiter (st.put [c]) cs := by
  rw [read_cons h, if_pos hst]

theorem read_twoQuotes (hst : st.inQuotes = true) :
    read delimiter st ('"' :: '"' :: cs) = read delimiter (st.put ['"']) cs := by
  rw [read]
  exact hst

theorem read_openQuote (hst : st.inQuotes = false) :
    read delimiter st ('"' :: cs) = read delimiter { st with inQuotes := true } cs := by
  simp only [read, hst]

theorem read_closeQuote (hst : st.inQuotes = true) (h : NoQuote cs) :
    read delimiter st ('"' :: cs) = read delimiter { st with inQuotes := false } cs := by
  have hnone : ∀ cs', cs = '"' :: cs' → False := by
    rintro cs' rfl
    exact h '"' rfl rfl
  rw [read]
  · exact hst
  · exact hnone

theorem read_delimiter (hst : st.inQuotes = false) (hd : delimiter ≠ '"') :
    read delimiter st (delimiter :: cs) = read delimiter st.endField cs := by
  rw [read_cons hd, if_neg (by simp [hst]), if_pos rfl]

theorem read_newline (hst : st.inQuotes = false) (hd : delimiter ≠ '\n') :
    read delimiter st ('\n' :: cs) = read delimiter st.endRow cs := by
  rw [read_cons (by decide), if_neg (by simp [hst]), if_neg (Ne.symm hd), if_pos rfl]

/-- Plain characters are read as they are. -/
theorem read_plain (hst : st.inQuotes = false) (h : ∀ c ∈ cs, Plain delimiter c)
    (rest : List Char) : read delimiter st (cs ++ rest) = read delimiter (st.put cs) rest := by
  induction cs generalizing st with
  | nil => rw [List.nil_append, put_nil]
  | cons c cs ih =>
    obtain ⟨hquote, hdelimiter, hnewline, hreturn⟩ := h c List.mem_cons_self
    have hput : (st.put [c]).inQuotes = false := hst
    rw [List.cons_append, read_cons hquote, if_neg (by simp [hst]), if_neg hdelimiter,
      if_neg hnewline, if_neg hreturn, ih hput fun c' hc' => h c' (List.mem_cons_of_mem c hc'),
      put_put, List.singleton_append]

/-- The text with its quotes written twice. -/
def doubled (cs : List Char) : List Char := cs.flatMap fun c => if c = '"' then ['"', '"'] else [c]

/-- In quotes everything is read as it is, up to the closing quote. -/
theorem read_doubled (hst : st.inQuotes = true) (cs : List Char) (h : NoQuote rest) :
    read delimiter st (doubled cs ++ '"' :: rest) =
      read delimiter { st.put cs with inQuotes := false } rest := by
  induction cs generalizing st with
  | nil =>
    rw [put_nil]
    exact read_closeQuote hst h
  | cons c cs ih =>
    have hcons : doubled (c :: cs) = (if c = '"' then ['"', '"'] else [c]) ++ doubled cs := by
      rw [doubled, List.flatMap_cons]
      rfl
    have hput : ∀ ds, (st.put ds).inQuotes = true := fun _ => hst
    rw [hcons]
    by_cases hc : c = '"'
    · rw [if_pos hc, hc]
      show read delimiter st ('"' :: '"' :: (doubled cs ++ '"' :: rest)) = _
      rw [read_twoQuotes hst, ih (hput ['"']), put_put, List.singleton_append]
    · rw [if_neg hc]
      show read delimiter st (c :: (doubled cs ++ '"' :: rest)) = _
      rw [read_inQuotes hst hc, ih (hput [c]), put_put, List.singleton_append]

/-- A quoted field is read as what was quoted. -/
theorem read_quoted (hst : st.inQuotes = false) (cs : List Char) (h : NoQuote rest) :
    read delimiter st ('"' :: (doubled cs ++ '"' :: rest)) = read delimiter (st.put cs) rest := by
  rw [read_openQuote hst, read_doubled rfl cs h]
  rw [put, put, ← hst]

end CsvState

end AX10M
