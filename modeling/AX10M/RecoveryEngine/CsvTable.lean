/-
  Tables in CSV, read back (`@ax10m/recovery-engine`, `bin-csv.ts`).

  `parseCsvUnits` reads the code units that a text and its delimiter are made of; on the characters
  of a text it is `parseCsv` (`parseCsvUnits_utf16`).  `parseCsv_write_iff`: a table that was
  written with a delimiter, with a byte-order mark before it or without, is read back, unless the
  delimiter is the byte-order mark itself, none stands before the table, and the table starts with
  an empty field and a delimiter.
-/
import AX10M.Js.Keys
import AX10M.RecoveryEngine.BinCsv
import AX10M.Tables.Delimited

namespace AX10M

open Js
open Delimited (Marks Reader)

/-! ## The reader of code units -/

/-- The byte-order mark. -/
def bom : ℕ := 0xFEFF

/-- What the reader looks for: quotes, the delimiter, `\n` and `\r`. -/
def csvMarks (delimiter : ℕ) : Marks ℕ where
  quote := 34
  delimiter := delimiter
  lf := 10
  cr := 13

/-- A byte-order mark is left out. -/
def stripUnit : List ℕ → List ℕ
  | [] => []
  | u :: us => if u = bom then us else u :: us

/-- The rows of a text, a text being its code units. -/
def parseCsvUnits (text : List ℕ) (delimiter : ℕ := 44) : List (List (List ℕ)) :=
  (({} : Reader ℕ).read (csvMarks delimiter) (stripUnit text)).finish

/-! ## The characters of a text -/

/-- The state of the reader in code units. -/
def CsvState.units (st : CsvState) : Reader ℕ where
  rows := st.rows.map (·.map utf16)
  row := st.row.map utf16
  field := st.field.flatMap Js.units
  inQuotes := st.inQuotes

theorem utf16_ofList (cs : List Char) : utf16 (String.ofList cs) = cs.flatMap units := by
  rw [utf16, String.toList_ofList]

namespace CsvState

variable (st : CsvState)

theorem units_put (cs : List Char) : (st.put cs).units = st.units.put (cs.flatMap Js.units) := by
  rw [units, put, Reader.put]
  simp only [List.flatMap_append]
  rfl

theorem units_endField : st.endField.units = st.units.endField := by
  rw [units, endField, Reader.endField]
  simp only [List.map_append, List.map_cons, List.map_nil, utf16_ofList]
  rfl

theorem units_endRow : st.endRow.units = st.units.endRow := by
  rw [units, endRow, Reader.endRow]
  simp only [List.map_append, List.map_cons, List.map_nil, utf16_ofList]
  rfl

end CsvState

/-- A character is among the code units of no other character. -/
theorem toNat_mem_units {c e : Char} (h : e.toNat ∈ units c) : c = e := by
  have hvalid : e.toNat < 55296 ∨ 57343 < e.toNat ∧ e.toNat < 1114112 := e.valid
  have hc : c.toNat < 55296 ∨ 57343 < c.toNat ∧ c.toNat < 1114112 := c.valid
  rw [units] at h
  split_ifs at h with hlt
  · obtain heq : e.toNat = c.toNat := List.mem_singleton.1 h
    rw [← Char.ofNat_toNat c, ← heq, Char.ofNat_toNat]
  · rcases List.mem_cons.1 h with heq | h
    · omega
    · have heq := List.mem_singleton.1 h
      omega

theorem units_of_lt {c : Char} (h : c.toNat < 65536) : units c = [c.toNat] := if_pos h

/-- The code units of a text do not start with a quote when the text does not. -/
theorem noQuote_units {delimiter : ℕ} {cs : List Char} (h : ∀ cs', cs = '"' :: cs' → False) :
    Delimited.NoQuote (csvMarks delimiter) (cs.flatMap units) := by
  cases cs with
  | nil => intro u hu; cases hu
  | cons c cs =>
    intro u hu hquote
    obtain rfl : u = 34 := hquote
    have hmem : 34 ∈ units c := by
      rw [List.flatMap_cons] at hu
      cases hunits : units c with
      | nil =>
        rw [units] at hunits
        split_ifs at hunits
      | cons v vs =>
        rw [hunits] at hu
        obtain rfl : v = 34 := Option.some.inj hu
        exact List.mem_cons_self
    have hc : c = '"' := toNat_mem_units (show '"'.toNat ∈ units c from hmem)
    exact h cs (by rw [hc])

/-- On the code units of characters, the reader does what it does on the characters. -/
theorem csvRead_units {delimiter : Char} (hd : delimiter.toNat < 65536) (st : CsvState)
    (cs : List Char) : st.units.read (csvMarks delimiter.toNat) (cs.flatMap units) =
      (st.read delimiter cs).units := by
  have hquote : units '"' = [34] := rfl
  have hnot {st : CsvState} (h : ¬ st.inQuotes = true) : st.units.inQuotes = false :=
    Bool.not_eq_true _ ▸ h
  have hunits {st : CsvState} {b : Bool} (h : st.inQuotes = b) : st.units.inQuotes = b := h
  induction st, cs using CsvState.read.induct delimiter with
  | case1 st => rfl
  | case2 st cs hst ih =>
    rw [CsvState.read_twoQuotes hst, ← ih, CsvState.units_put, List.flatMap_cons,
      List.flatMap_cons, hquote]
    exact Delimited.read_twoQuotes (m := csvMarks delimiter.toNat) (hunits hst)
  | case3 st cs hnone hst ih =>
    have hclose : AX10M.NoQuote cs := by
      intro c hc hcq
      obtain ⟨cs', rfl⟩ : ∃ cs', cs = c :: cs' := List.head?_eq_some_iff.1 hc
      exact hnone cs' (by rw [hcq])
    rw [CsvState.read_closeQuote hst hclose, ← ih, List.flatMap_cons, hquote]
    exact Delimited.read_closeQuote (m := csvMarks delimiter.toNat) (hunits hst)
      (noQuote_units hnone)
  | case4 st cs hst ih =>
    rw [CsvState.read_openQuote hst, ← ih, List.flatMap_cons, hquote]
    exact Delimited.read_openQuote (m := csvMarks delimiter.toNat) (hunits hst)
  | case5 st c cs hc hst ih =>
    rw [CsvState.read_inQuotes hst hc, ← ih, CsvState.units_put, List.flatMap_cons,
      List.flatMap_singleton]
    refine Delimited.read_noQuotes hst (fun u hu huq => hc ?_) _
    obtain rfl : u = 34 := huq
    exact toNat_mem_units (show '"'.toNat ∈ units c from hu)
  | case6 st cs hst hdq ih =>
    have hquote : delimiter.toNat ≠ 34 := fun h => hdq (Char.toNat_inj.1 h)
    rw [CsvState.read_delimiter (Bool.not_eq_true _ ▸ hst) hdq, ← ih, CsvState.units_endField,
      List.flatMap_cons, units_of_lt hd, List.singleton_append]
    exact Delimited.read_delimiter (m := csvMarks delimiter.toNat) (hnot hst) hquote
  | case7 st cs hst hq hnd ih =>
    have hdelimiter : 10 ≠ delimiter.toNat := fun h => hnd (Char.toNat_inj.1 h)
    rw [CsvState.read_newline (Bool.not_eq_true _ ▸ hst) (Ne.symm hnd), ← ih,
      CsvState.units_endRow]
    exact Delimited.read_lf (m := csvMarks delimiter.toNat) (hnot hst)
      (show 10 ≠ 34 by decide) hdelimiter
  | case8 st cs hst hq hrd hrn ih =>
    have hdelimiter : 13 ≠ delimiter.toNat := fun h => hrd (Char.toNat_inj.1 h)
    rw [CsvState.read_cons hq, if_neg hst, if_neg hrd, if_neg hrn, if_pos rfl, ← ih]
    exact Delimited.read_cr (m := csvMarks delimiter.toNat) (hnot hst)
      (show 13 ≠ 34 by decide) hdelimiter (show 13 ≠ 10 by decide)
  | case9 st c cs hq hst hd hn hr ih =>
    have hplain : ∀ u ∈ units c, Delimited.Plain (csvMarks delimiter.toNat) u := by
      intro u hu
      refine ⟨?_, ?_, ?_, ?_⟩
      · rintro rfl
        exact hq (toNat_mem_units (show '"'.toNat ∈ units c from hu))
      · rintro rfl
        exact hd (toNat_mem_units hu)
      · rintro rfl
        exact hn (toNat_mem_units (show '\n'.toNat ∈ units c from hu))
      · rintro rfl
        exact hr (toNat_mem_units (show '\r'.toNat ∈ units c from hu))
    rw [CsvState.read_cons hq, if_neg hst, if_neg hd, if_neg hn, if_neg hr, ← ih,
      CsvState.units_put, List.flatMap_cons, List.flatMap_singleton]
    exact Delimited.read_plain (hnot hst) hplain _

/-- The code units of a character, one at least. -/
theorem units_eq_cons (c : Char) : ∃ u us, units c = u :: us := by
  rw [units]
  split_ifs
  · exact ⟨_, _, rfl⟩
  · exact ⟨_, _, rfl⟩

theorem stripUnit_units (cs : List Char) :
    stripUnit (cs.flatMap units) = (stripBom cs).flatMap units := by
  cases cs with
  | nil => rfl
  | cons c cs =>
    by_cases hc : c = '\uFEFF'
    · subst hc
      rfl
    · obtain ⟨u, us, hunits⟩ := units_eq_cons c
      have hu : u ≠ bom := by
        rintro rfl
        refine hc (toNat_mem_units (show '\uFEFF'.toNat ∈ units c from ?_))
        rw [hunits]
        exact List.mem_cons_self
      have hstrip : stripBom (c :: cs) = c :: cs := by
        rw [stripBom]
        rintro cs' h
        exact hc (List.cons.inj h).1
      rw [hstrip, List.flatMap_cons, hunits, List.cons_append, stripUnit, if_neg hu]

/-- On the code units of a text, the rows are those of the text. -/
theorem parseCsvUnits_utf16 {delimiter : Char} (hd : delimiter.toNat < 65536) (text : String) :
    parseCsvUnits (utf16 text) delimiter.toNat =
      (parseCsv text delimiter).map (·.map utf16) := by
  have hread := csvRead_units hd {} (stripBom text.toList)
  have hrows (st : CsvState) : st.units.finish =
      (if st.field.length > 0 ∨ st.row.length > 0 then st.endRow.rows else st.rows).map
        (·.map utf16) := by
    have hfield : st.units.field.length > 0 ↔ st.field.length > 0 := by
      rw [gt_iff_lt, gt_iff_lt, List.length_pos_iff, List.length_pos_iff, not_iff_not]
      refine List.flatMap_eq_nil_iff.trans ⟨fun h => ?_, fun h => by simp [h]⟩
      rw [List.eq_nil_iff_forall_not_mem]
      intro c hc
      obtain ⟨u, us, hunits⟩ := units_eq_cons c
      rw [h c hc] at hunits
      cases hunits
    have hrow : st.units.row.length > 0 ↔ st.row.length > 0 := by
      rw [CsvState.units, List.length_map]
    have hiff := or_congr hfield hrow
    by_cases h : st.field.length > 0 ∨ st.row.length > 0
    · rw [Reader.finish, if_pos (hiff.2 h), if_pos h, ← CsvState.units_endRow]
      rfl
    · rw [Reader.finish, if_neg (mt hiff.1 h), if_neg h]
      rfl
  rw [parseCsvUnits, utf16, stripUnit_units]
  exact (congrArg Reader.finish hread).trans (hrows _)

/-! ## What is written is read back -/

/-- A delimiter: no quote and no line end. -/
def IsDelimiter (u : ℕ) : Prop := u ≠ 34 ∧ u ≠ 10 ∧ u ≠ 13

instance (u : ℕ) : Decidable (IsDelimiter u) := inferInstanceAs (Decidable (_ ∧ _))

variable {delimiter : ℕ}

/-- Fields are written in quotes when they hold the delimiter, a quote, a line end or a byte-order
    mark. -/
def csvDialect (hd : IsDelimiter delimiter) : Delimited.Dialect ℕ where
  marks := csvMarks delimiter
  distinct :=
    { delimiter_ne_quote := hd.1
      lf_ne_quote := show 10 ≠ 34 by decide
      cr_ne_quote := show 13 ≠ 34 by decide
      lf_ne_delimiter := Ne.symm hd.2.1
      cr_ne_delimiter := Ne.symm hd.2.2
      cr_ne_lf := show 13 ≠ 10 by decide }
  special u := [delimiter, 34, 13, 10, bom].contains u
  marks_special := by
    intro u hu
    simp only [List.contains_eq_mem, List.mem_cons, List.not_mem_nil, or_false, not_or,
      decide_eq_false_iff_not] at hu
    exact ⟨hu.2.1, hu.1, hu.2.2.2.1, hu.2.2.1⟩

/-- The table starts with an empty field that another one follows. -/
def StartsEmpty (rows : List (Delimited.Row ℕ)) : Prop :=
  ∃ r ∈ rows.head?, ∃ f fs, r.fields = [] :: f :: fs

/-- A text with a byte-order mark before it, or without. -/
def marked (mark : Bool) (text : List ℕ) : List ℕ := if mark then bom :: text else text

theorem stripUnit_of_not_mem {us : List ℕ} (h : bom ∉ us.head?) : stripUnit us = us := by
  cases us with
  | nil => rfl
  | cons u us =>
    rw [stripUnit, if_neg]
    rintro rfl
    exact h rfl

open Delimited

variable (hd : IsDelimiter delimiter)

/-- What was written of a field starts with no byte-order mark. -/
theorem writeField_bom {f rest : List ℕ}
    (h : bom ∈ (writeField (csvDialect hd) f ++ rest).head?) : f = [] ∧ bom ∈ rest.head? := by
  cases f with
  | nil => exact ⟨rfl, h⟩
  | cons u us =>
    exfalso
    by_cases hany : (u :: us).any (csvDialect hd).special = true
    · rw [writeField, if_pos hany] at h
      exact absurd (Option.some.inj h) (show 34 ≠ bom by decide)
    · rw [writeField, if_neg hany] at h
      obtain rfl : u = bom := Option.some.inj h
      refine hany (List.any_eq_true.2 ⟨bom, List.mem_cons_self, ?_⟩)
      exact List.contains_iff_mem.2 (by simp)

/-- What was written of a table starts with a byte-order mark only when that is the delimiter. -/
theorem write_bom {rows : List (Delimited.Row ℕ)} (h : bom ∈ (write (csvDialect hd) rows).head?) :
    delimiter = bom ∧ StartsEmpty rows := by
  cases rows with
  | nil => cases h
  | cons r rows =>
    have hend (rest : List ℕ) : bom ∉ (lineEnd (csvDialect hd) r.crlf ++ rest).head? := by
      intro hbom
      cases hcrlf : r.crlf with
      | false =>
        rw [hcrlf] at hbom
        exact absurd (Option.some.inj hbom) (show 10 ≠ bom by decide)
      | true =>
        rw [hcrlf] at hbom
        exact absurd (Option.some.inj hbom) (show 13 ≠ bom by decide)
    rw [write, List.flatMap_cons, Delimited.Row.write, List.append_assoc] at h
    cases hfields : r.fields with
    | nil => exact absurd hfields r.fields_ne_nil
    | cons f fs =>
      cases fs with
      | nil =>
        rw [hfields] at h
        exact absurd (writeField_bom hd h).2 (hend _)
      | cons f' fs =>
        rw [hfields, writeFields_cons f (List.cons_ne_nil f' fs), List.append_assoc] at h
        obtain ⟨rfl, hbom⟩ := writeField_bom hd h
        exact ⟨Option.some.inj hbom, r, rfl, f', fs, hfields⟩

/-- A delimiter that is taken for a byte-order mark. -/
theorem stripUnit_write {rows : List (Delimited.Row ℕ)} (hbom : delimiter = bom)
    (h : StartsEmpty rows) :
    ∃ rows' : List (Delimited.Row ℕ),
      stripUnit (write (csvDialect hd) rows) = write (csvDialect hd) rows' ∧
      rows'.map Delimited.Row.fields ≠ rows.map Delimited.Row.fields := by
  obtain ⟨r, hr, f, fs, hfields⟩ := h
  obtain ⟨rows, rfl⟩ : ∃ rows', rows = r :: rows' := List.head?_eq_some_iff.1 hr
  refine ⟨⟨f :: fs, List.cons_ne_nil f fs, r.crlf⟩ :: rows, ?_, ?_⟩
  · have hwrite : r.write (csvDialect hd) =
        delimiter :: (writeFields (csvDialect hd) (f :: fs) ++ lineEnd (csvDialect hd) r.crlf) := by
      rw [Delimited.Row.write, hfields]
      rfl
    rw [write, List.flatMap_cons, hwrite, List.cons_append, stripUnit, if_pos hbom]
    rfl
  · intro heq
    have hfirst : f :: fs = [] :: f :: fs := by
      rw [← hfields]
      exact (List.cons.inj heq).1
    simpa using congrArg List.length hfirst

/-- **A table that was written is read back**, with a byte-order mark before it or without, unless
    the delimiter is the byte-order mark, none stands before the table, and the table starts with
    an empty field and a delimiter. -/
theorem parseCsv_write_iff (mark : Bool) (rows : List (Delimited.Row ℕ)) :
    parseCsvUnits (marked mark (write (csvDialect hd) rows)) delimiter =
        rows.map Delimited.Row.fields ↔
      ¬ (delimiter = bom ∧ mark = false ∧ StartsEmpty rows) := by
  have hread (rows : List (Delimited.Row ℕ)) : (({} : Reader ℕ).read (csvMarks delimiter)
      (write (csvDialect hd) rows)).finish = rows.map Delimited.Row.fields :=
    finish_read_write (d := csvDialect hd) rows
  cases mark with
  | true =>
    have hstrip (us : List ℕ) : stripUnit (bom :: us) = us := by
      rw [stripUnit, if_pos rfl]
    rw [parseCsvUnits, marked, if_pos rfl, hstrip, hread]
    exact iff_of_true rfl fun h => absurd h.2.1 (by decide)
  | false =>
    rw [parseCsvUnits, marked, if_neg (by decide)]
    by_cases h : delimiter = bom ∧ StartsEmpty rows
    · obtain ⟨rows', hrows', hne⟩ := stripUnit_write hd h.1 h.2
      rw [hrows', hread]
      exact iff_of_false hne fun hnot => hnot ⟨h.1, rfl, h.2⟩
    · rw [stripUnit_of_not_mem fun hbom => h (write_bom hd hbom), hread]
      exact iff_of_true rfl fun hnot => h ⟨hnot.1, hnot.2.2⟩

/-- `a,` in quotes and an empty field, with commas. -/
theorem parseCsv_write_comma :
    parseCsvUnits (marked true (write (csvDialect (show IsDelimiter 44 by decide))
      [⟨[[97, 44], []], by decide, true⟩])) 44 = [[[97, 44], []]] :=
  (parseCsv_write_iff (show IsDelimiter 44 by decide) true [⟨[[97, 44], []], by decide, true⟩]).2
    fun h => absurd h.1 (by decide)

/-- With the byte-order mark for a delimiter, an empty first field is lost. -/
theorem parseCsv_write_bom :
    parseCsvUnits (write (csvDialect (show IsDelimiter bom by decide))
      [⟨[[], [97]], by decide, false⟩]) bom ≠ [[[], [97]]] := by
  decide

end AX10M
