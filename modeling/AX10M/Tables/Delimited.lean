/-
  Tables as text: fields with delimiters between them, rows with line ends behind them, and quotes
  around a field that holds a mark.

  `read` is a reader that goes through the text once and keeps the rows, the row and the field it
  is in; `Row.write` writes a row with a line end of its own.  `read_write`: what was written is
  read back, with whatever stands behind it.
-/
import Mathlib.Data.List.Basic

namespace Delimited

/-- The characters that a text is cut at. -/
structure Marks (α : Type) where
  quote : α
  delimiter : α
  lf : α
  cr : α

/-- No two marks are one character. -/
structure Marks.Distinct {α : Type} (m : Marks α) : Prop where
  delimiter_ne_quote : m.delimiter ≠ m.quote
  lf_ne_quote : m.lf ≠ m.quote
  cr_ne_quote : m.cr ≠ m.quote
  lf_ne_delimiter : m.lf ≠ m.delimiter
  cr_ne_delimiter : m.cr ≠ m.delimiter
  cr_ne_lf : m.cr ≠ m.lf

/-- What has been read: the rows, the fields of the row that is read, and the field. -/
structure Reader (α : Type) where
  rows : List (List (List α)) := []
  row : List (List α) := []
  field : List α := []
  inQuotes : Bool := false

namespace Reader

variable {α : Type}

/-- Characters of the field. -/
def put (st : Reader α) (cs : List α) : Reader α := { st with field := st.field ++ cs }

/-- The field is over. -/
def endField (st : Reader α) : Reader α := { st with row := st.row ++ [st.field], field := [] }

/-- The row is over. -/
def endRow (st : Reader α) : Reader α :=
  { st with rows := st.rows ++ [st.row ++ [st.field]], row := [], field := [] }

/-- In quotes, or out of them. -/
def quotes (st : Reader α) (b : Bool) : Reader α := { st with inQuotes := b }

@[simp] theorem put_inQuotes (st : Reader α) (cs : List α) :
    (st.put cs).inQuotes = st.inQuotes := rfl

@[simp] theorem endField_inQuotes (st : Reader α) : st.endField.inQuotes = st.inQuotes := rfl

@[simp] theorem quotes_inQuotes (st : Reader α) (b : Bool) : (st.quotes b).inQuotes = b := rfl

@[simp] theorem put_nil (st : Reader α) : st.put [] = st := by
  rw [put, List.append_nil]

@[simp] theorem put_put (st : Reader α) (cs ds : List α) :
    (st.put cs).put ds = st.put (cs ++ ds) := by
  rw [put, put, put, List.append_assoc]

variable [DecidableEq α] (m : Marks α)

/-- What a character does to the reader. -/
def step (st : Reader α) (c : α) : Reader α :=
  if st.inQuotes then
    if c = m.quote then st.quotes false else st.put [c]
  else if c = m.quote then st.quotes true
  else if c = m.delimiter then st.endField
  else if c = m.lf then st.endRow
  else if c = m.cr then st
  else st.put [c]

/-- Read a text: in quotes, two quotes are one. -/
def read : Reader α → List α → Reader α
  | st, [] => st
  | st, [c] => st.step m c
  | st, c :: c' :: cs =>
    if st.inQuotes ∧ c = m.quote ∧ c' = m.quote then read (st.put [m.quote]) cs
    else read (st.step m c) (c' :: cs)

/-- The rows of what was read: a row without a line end is one too. -/
def finish (st : Reader α) : List (List (List α)) :=
  if st.field.length > 0 ∨ st.row.length > 0 then st.endRow.rows else st.rows

end Reader

/-! ## What is read at each character -/

section
variable {α : Type} [DecidableEq α] {m : Marks α} {st : Reader α} {c : α} {cs rest : List α}

/-- A character that is read as it is outside of quotes. -/
def Plain (m : Marks α) (c : α) : Prop :=
  c ≠ m.quote ∧ c ≠ m.delimiter ∧ c ≠ m.lf ∧ c ≠ m.cr

/-- The text does not start with a quote. -/
def NoQuote (m : Marks α) (cs : List α) : Prop := ∀ c ∈ cs.head?, c ≠ m.quote

omit [DecidableEq α] in
theorem noQuote_cons (h : c ≠ m.quote) (cs : List α) : NoQuote m (c :: cs) := by
  intro c' hc'
  obtain rfl : c = c' := Option.some.inj hc'
  exact h

theorem read_twoQuotes (hst : st.inQuotes = true) :
    st.read m (m.quote :: m.quote :: cs) = (st.put [m.quote]).read m cs := by
  rw [Reader.read, if_pos ⟨hst, rfl, rfl⟩]

/-- A character is read alone unless it is the first of two quotes in quotes. -/
theorem read_cons (h : st.inQuotes = true → c = m.quote → NoQuote m cs) :
    st.read m (c :: cs) = (st.step m c).read m cs := by
  cases cs with
  | nil => rfl
  | cons c' cs =>
    rw [Reader.read, if_neg]
    rintro ⟨hst, hc, hc'⟩
    exact h hst hc c' rfl hc'

theorem read_cons_plain (hst : st.inQuotes = false) :
    st.read m (c :: cs) = (st.step m c).read m cs := by
  refine read_cons fun hst' => ?_
  rw [hst] at hst'
  cases hst'

theorem read_inQuotes (hst : st.inQuotes = true) (h : c ≠ m.quote) :
    st.read m (c :: cs) = (st.put [c]).read m cs := by
  rw [read_cons fun _ hc => absurd hc h, Reader.step, if_pos hst, if_neg h]

theorem read_closeQuote (hst : st.inQuotes = true) (h : NoQuote m cs) :
    st.read m (m.quote :: cs) = (st.quotes false).read m cs := by
  rw [read_cons fun _ _ => h, Reader.step, if_pos hst, if_pos rfl]

theorem read_openQuote (hst : st.inQuotes = false) :
    st.read m (m.quote :: cs) = (st.quotes true).read m cs := by
  rw [read_cons_plain hst, Reader.step, if_neg (by simp [hst]), if_pos rfl]

theorem read_delimiter (hst : st.inQuotes = false) (hquote : m.delimiter ≠ m.quote) :
    st.read m (m.delimiter :: cs) = st.endField.read m cs := by
  rw [read_cons_plain hst, Reader.step, if_neg (by simp [hst]), if_neg hquote, if_pos rfl]

theorem read_lf (hst : st.inQuotes = false) (hquote : m.lf ≠ m.quote)
    (hdelimiter : m.lf ≠ m.delimiter) : st.read m (m.lf :: cs) = st.endRow.read m cs := by
  rw [read_cons_plain hst, Reader.step, if_neg (by simp [hst]), if_neg hquote,
    if_neg hdelimiter, if_pos rfl]

theorem read_cr (hst : st.inQuotes = false) (hquote : m.cr ≠ m.quote)
    (hdelimiter : m.cr ≠ m.delimiter) (hlf : m.cr ≠ m.lf) :
    st.read m (m.cr :: cs) = st.read m cs := by
  rw [read_cons_plain hst, Reader.step, if_neg (by simp [hst]), if_neg hquote,
    if_neg hdelimiter, if_neg hlf, if_pos rfl]

theorem read_plain_cons (hst : st.inQuotes = false) (h : Plain m c) :
    st.read m (c :: cs) = (st.put [c]).read m cs := by
  obtain ⟨hquote, hdelimiter, hlf, hcr⟩ := h
  rw [read_cons_plain hst, Reader.step, if_neg (by simp [hst]), if_neg hquote,
    if_neg hdelimiter, if_neg hlf, if_neg hcr]

/-! ## What is read of a field -/

/-- Plain characters are read as they are. -/
theorem read_plain (hst : st.inQuotes = false) (h : ∀ c ∈ cs, Plain m c) (rest : List α) :
    st.read m (cs ++ rest) = (st.put cs).read m rest := by
  induction cs generalizing st with
  | nil => rw [List.nil_append, Reader.put_nil]
  | cons c cs ih =>
    have hput : (st.put [c]).inQuotes = false := hst
    rw [List.cons_append, read_plain_cons hst (h c List.mem_cons_self),
      ih hput fun c' hc' => h c' (List.mem_cons_of_mem c hc'), Reader.put_put,
      List.singleton_append]

/-- In quotes, what holds no quote is read as it is. -/
theorem read_noQuotes (hst : st.inQuotes = true) (h : ∀ c ∈ cs, c ≠ m.quote) (rest : List α) :
    st.read m (cs ++ rest) = (st.put cs).read m rest := by
  induction cs generalizing st with
  | nil => rw [List.nil_append, Reader.put_nil]
  | cons c cs ih =>
    have hput : (st.put [c]).inQuotes = true := hst
    rw [List.cons_append, read_inQuotes hst (h c List.mem_cons_self),
      ih hput fun c' hc' => h c' (List.mem_cons_of_mem c hc'), Reader.put_put,
      List.singleton_append]

/-- The text with its quotes written twice. -/
def doubled (m : Marks α) (cs : List α) : List α :=
  cs.flatMap fun c => if c = m.quote then [m.quote, m.quote] else [c]

theorem doubled_cons (m : Marks α) (c : α) (cs : List α) : doubled m (c :: cs) =
    (if c = m.quote then [m.quote, m.quote] else [c]) ++ doubled m cs := by
  rw [doubled, List.flatMap_cons]
  rfl

/-- In quotes everything is read as it is, up to the closing quote. -/
theorem read_doubled (hst : st.inQuotes = true) (cs : List α) (h : NoQuote m rest) :
    st.read m (doubled m cs ++ m.quote :: rest) = ((st.put cs).quotes false).read m rest := by
  induction cs generalizing st with
  | nil =>
    rw [Reader.put_nil]
    exact read_closeQuote hst h
  | cons c cs ih =>
    have hput : ∀ ds, (st.put ds).inQuotes = true := fun _ => hst
    rw [doubled_cons]
    by_cases hc : c = m.quote
    · rw [if_pos hc, hc]
      show st.read m (m.quote :: m.quote :: (doubled m cs ++ m.quote :: rest)) = _
      rw [read_twoQuotes hst, ih (hput _), Reader.put_put, List.singleton_append]
    · rw [if_neg hc]
      show st.read m (c :: (doubled m cs ++ m.quote :: rest)) = _
      rw [read_inQuotes hst hc, ih (hput _), Reader.put_put, List.singleton_append]

/-- The text in quotes. -/
def quoted (m : Marks α) (cs : List α) : List α := m.quote :: (doubled m cs ++ [m.quote])

theorem read_quoted (hst : st.inQuotes = false) (cs : List α) (h : NoQuote m rest) :
    st.read m (quoted m cs ++ rest) = (st.put cs).read m rest := by
  have hback : (((st.quotes true).put cs).quotes false) = st.put cs := by
    rw [Reader.quotes, Reader.quotes, Reader.put, Reader.put, ← hst]
  rw [quoted, List.cons_append, List.append_assoc, List.singleton_append, read_openQuote hst,
    read_doubled rfl cs h, hback]

end

/-! ## What is written is read back -/

section
variable {α : Type} [DecidableEq α]

/-- How fields are written: in quotes where they hold a special character, and every mark is
    one. -/
structure Dialect (α : Type) where
  marks : Marks α
  distinct : marks.Distinct
  special : α → Bool
  marks_special : ∀ c, special c = false → Plain marks c

/-- A row of a table with its line end. -/
structure Row (α : Type) where
  fields : List (List α)
  fields_ne_nil : fields ≠ []
  crlf : Bool

variable (d : Dialect α)

/-- A field as text. -/
def writeField (cs : List α) : List α := if cs.any d.special then quoted d.marks cs else cs

/-- Fields as text, with delimiters between them. -/
def writeFields : List (List α) → List α
  | [] => []
  | [f] => writeField d f
  | f :: fs => writeField d f ++ d.marks.delimiter :: writeFields fs

/-- A line end. -/
def lineEnd (crlf : Bool) : List α := if crlf then [d.marks.cr, d.marks.lf] else [d.marks.lf]

/-- A row as text. -/
def Row.write (r : Row α) : List α := writeFields d r.fields ++ lineEnd d r.crlf

/-- A table as text. -/
def write (rows : List (Row α)) : List α := rows.flatMap (Row.write d)

variable {d} {st : Reader α} {rest : List α}

theorem read_writeField (hst : st.inQuotes = false) (cs : List α) (h : NoQuote d.marks rest) :
    st.read d.marks (writeField d cs ++ rest) = (st.put cs).read d.marks rest := by
  rw [writeField]
  by_cases hany : cs.any d.special = true
  · rw [if_pos hany]
    exact read_quoted hst cs h
  · rw [if_neg hany]
    refine read_plain hst (fun c hc => d.marks_special c ?_) rest
    by_contra hspecial
    exact hany (List.any_eq_true.2 ⟨c, hc, by simpa using hspecial⟩)

theorem writeFields_cons {fs : List (List α)} (f : List α) (h : fs ≠ []) :
    writeFields d (f :: fs) = writeField d f ++ d.marks.delimiter :: writeFields d fs := by
  cases fs with
  | nil => exact absurd rfl h
  | cons f' fs => rfl

/-- The row that the fields of a text end up in. -/
theorem read_writeFields {fs : List (List α)} (hfs : fs ≠ []) (hst : st.inQuotes = false)
    (hfield : st.field = []) (h : NoQuote d.marks rest) :
    st.read d.marks (writeFields d fs ++ rest) =
      ({ st with
          row := st.row ++ fs.dropLast
          field := fs.getLast hfs }).read d.marks rest := by
  induction fs generalizing st with
  | nil => exact absurd rfl hfs
  | cons f fs ih =>
    by_cases hne : fs = []
    · subst hne
      rw [writeFields, read_writeField hst f h, Reader.put, hfield]
      simp
    · have hdelimiter : NoQuote d.marks (d.marks.delimiter :: (writeFields d fs ++ rest)) :=
        noQuote_cons d.distinct.delimiter_ne_quote _
      have hput : (st.put f).inQuotes = false := hst
      have hend : (st.put f).endField.inQuotes = false := hst
      rw [writeFields_cons f hne, List.append_assoc, List.cons_append,
        read_writeField hst f hdelimiter, read_delimiter hput d.distinct.delimiter_ne_quote,
        ih hne hend rfl]
      rw [Reader.endField, Reader.put, hfield, List.nil_append, List.dropLast_cons_of_ne_nil hne,
        List.getLast_cons hne, List.append_assoc, List.singleton_append]

omit [DecidableEq α] in
theorem noQuote_lineEnd (crlf : Bool) (rest : List α) :
    NoQuote d.marks (lineEnd d crlf ++ rest) := by
  cases crlf with
  | false => exact noQuote_cons d.distinct.lf_ne_quote _
  | true => exact noQuote_cons d.distinct.cr_ne_quote _

theorem read_lineEnd (hst : st.inQuotes = false) (crlf : Bool) (rest : List α) :
    st.read d.marks (lineEnd d crlf ++ rest) = st.endRow.read d.marks rest := by
  have hlf : st.read d.marks (d.marks.lf :: rest) = st.endRow.read d.marks rest :=
    read_lf hst d.distinct.lf_ne_quote d.distinct.lf_ne_delimiter
  cases crlf with
  | false => exact hlf
  | true =>
    exact (read_cr hst d.distinct.cr_ne_quote d.distinct.cr_ne_delimiter
      d.distinct.cr_ne_lf).trans hlf

/-- A row that was written is read as one more row. -/
theorem read_row (r : Row α) (rows : List (List (List α))) (rest : List α) :
    ({ rows } : Reader α).read d.marks (r.write d ++ rest) =
      ({ rows := rows ++ [r.fields] } : Reader α).read d.marks rest := by
  have hfields : [] ++ r.fields.dropLast ++ [r.fields.getLast r.fields_ne_nil] = r.fields := by
    rw [List.nil_append, List.dropLast_append_getLast]
  rw [Row.write, List.append_assoc, read_writeFields r.fields_ne_nil rfl rfl
    (noQuote_lineEnd r.crlf rest)]
  refine (read_lineEnd ?_ r.crlf rest).trans ?_
  · rfl
  · rw [Reader.endRow]
    show ({ rows := rows ++ [[] ++ r.fields.dropLast ++ [r.fields.getLast r.fields_ne_nil]] } :
      Reader α).read d.marks rest = _
    rw [hfields]

/-- **What was written is read back.** -/
theorem read_write (rows : List (Row α)) (rows₀ : List (List (List α))) :
    ({ rows := rows₀ } : Reader α).read d.marks (write d rows) =
      ({ rows := rows₀ ++ rows.map Row.fields } : Reader α) := by
  induction rows generalizing rows₀ with
  | nil => rw [List.map_nil, List.append_nil]; rfl
  | cons r rows ih =>
    rw [write, List.flatMap_cons, ← write, read_row, ih, List.map_cons, List.append_assoc,
      List.singleton_append]

/-- The rows that a table's text is read as. -/
theorem finish_read_write (rows : List (Row α)) :
    (({} : Reader α).read d.marks (write d rows)).finish = rows.map Row.fields := by
  rw [read_write, Reader.finish, if_neg (by simp)]
  exact List.nil_append _

end

end Delimited
