/-
  The exports as comma-separated values (`@ax10m/attribution`, `reconciliation.ts`), as the
  repository reads them back.

  `parseCsv_join`: the reader gives the cells that were written, each with an apostrophe in front if
  it starts as a formula.  The sign of a number is such a start, so `csv_decodes_iff`: what was
  written is read back if and only if no number is negative.
-/
import AX10M.Attribution.Evidence
import AX10M.Js.Fixed
import AX10M.Js.Joined
import AX10M.RecoveryEngine.BinCsv

namespace AX10M

open Js

/-! ## Cells -/

/-- What a cell is written from. -/
inductive CsvValue where
  | text (s : String)
  | number (x : ℚ)
  | flag (b : Bool)

/-- The text of a value. -/
def CsvValue.toText : CsvValue → List Char
  | text s => s.toList
  | number x => numberText x
  | flag b => (if b then "true" else "false").toList

/-- A spreadsheet evaluates what starts with it. -/
def formulaStart (c : Char) : Bool := ['=', '+', '-', '@', '\t', '\r'].contains c

def startsFormula (cs : List Char) : Bool := cs.head?.any formulaStart

/-- An apostrophe in front makes a text of a formula. -/
def neutralize (cs : List Char) : List Char := if startsFormula cs then '\'' :: cs else cs

/-- The cell has to be quoted. -/
def needsQuotes (c : Char) : Bool := ['"', ',', '\n', '\r'].contains c

def csvCell (v : CsvValue) : String :=
  let s := neutralize v.toText
  if s.any needsQuotes then String.ofList ('"' :: (CsvState.doubled s ++ ['"']))
  else String.ofList s

def csvRow (cells : List CsvValue) : String := join ',' (cells.map csvCell)

/-! ## The exports -/

def reconciliationHeader : List CsvValue :=
  [.text "invoice_id", .text "customer_id", .text "arm", .text "stratum", .text "decline_code",
    .text "outcome", .text "invoice_amount_minor", .text "recovered_amount_minor",
    .text "currency", .text "processor_txn_id", .text "settled_at", .text "reversal_type",
    .text "reversal_amount_minor", .text "reversal_at"]

/-- The cells of an outcome. -/
def reconciliationRow (o : SettledOutcome ℚ) : List CsvValue :=
  [.text o.invoiceId, .text o.customerId, .text o.arm.text, .text o.stratum,
    .text (o.declineCode.getD ""), .text o.outcome.text, .number o.invoiceAmount,
    .number o.recoveredAmount, .text o.currency, .text (o.processorTxnId.getD ""),
    .text (o.settledAt.getD ""), .text (o.reversalType.getD .none).text,
    .number (o.reversalAmount.getD 0), .text (o.reversalAt.getD "")]

def reconciliationRows (e : ReconciliationExport ℚ) : List (List CsvValue) :=
  reconciliationHeader :: e.recoveredTransactions.map reconciliationRow

/-- The recovered transactions. -/
def reconciliationCsv (e : ReconciliationExport ℚ) : String :=
  join '\n' ((reconciliationRows e).map csvRow)

def feeWorksheetRows (e : ReconciliationExport ℚ) : List (List CsvValue) :=
  [[.text "metric", .text "value"],
    [.text "fee_rate", .number e.fee.feeRate],
    [.text "delta_per_invoice_minor", .number e.fee.deltaPer],
    [.text "cluster_robust_se_minor", .number e.fee.se],
    [.text "msprt_half_width_minor", .number e.fee.halfWidth],
    [.text "lower_bound_per_invoice_minor", .number e.fee.lowerPer],
    [.text "treated_invoices", .number e.fee.treatedInvoices],
    [.text "lower_bound_cumulative_minor", .number e.fee.lowerDollarsCum],
    [.text "prior_billed_minor", .number e.fee.priorBilledDollars],
    [.text "billable_increment_minor", .number e.fee.billableIncrement],
    [.text "fee_minor", .number e.fee.fee],
    [.text "billable", .flag e.fee.billable],
    [.text "gate_reasons", .text ("; ".intercalate e.fee.gateReasons)],
    [.text "cuped_variance_reduction", .number e.fee.cupedVarianceReduction],
    [.text "effective_n", .number e.fee.effectiveN],
    [.text "statement_hash", .text e.statementHash],
    [.text "signing_key_id", .text (e.signingKeyId.getD "")],
    [.text "signature", .text (e.signature.getD "")]]

/-- The inputs of the fee. -/
def feeWorksheetCsv (e : ReconciliationExport ℚ) : String :=
  join '\n' ((feeWorksheetRows e).map csvRow)

/-! ## Reading them back -/

/-- What is read of a cell. -/
def CsvValue.decoded (v : CsvValue) : String := String.ofList (neutralize v.toText)

namespace CsvState

variable {st : CsvState} {rest : List Char}

theorem plain_of_not_needsQuotes {c : Char} (h : needsQuotes c = false) : Plain ',' c := by
  simp only [needsQuotes, List.contains_eq_mem, List.mem_cons, List.not_mem_nil, or_false,
    decide_eq_false_iff_not, not_or] at h
  exact h

/-- A cell is read as it was written. -/
theorem read_csvCell (hst : st.inQuotes = false) (v : CsvValue) (h : NoQuote rest) :
    read ',' st ((csvCell v).toList ++ rest) = read ',' (st.put (neutralize v.toText)) rest := by
  rw [csvCell]
  by_cases hquote : (neutralize v.toText).any needsQuotes
  · rw [if_pos hquote, String.toList_ofList, List.cons_append, List.append_assoc,
      List.singleton_append]
    exact read_quoted hst _ h
  · rw [if_neg hquote, String.toList_ofList]
    refine read_plain hst (fun c hc => plain_of_not_needsQuotes ?_) rest
    rw [List.any_eq_true] at hquote
    exact Bool.eq_false_iff.2 fun hneeds => hquote ⟨c, hc, hneeds⟩

theorem noQuote_cons {c : Char} (h : c ≠ '"') (cs : List Char) : NoQuote (c :: cs) := by
  intro c' hc'
  rwa [← Option.some.inj hc']

theorem noQuote_nil : NoQuote [] := nofun

/-- A row is read as it was written, up to its end. -/
theorem read_csvRow (hst : st.inQuotes = false) (hfield : st.field = []) {cells : List CsvValue}
    (hcells : cells ≠ []) (h : NoQuote rest) : ∃ st' : CsvState,
      read ',' st ((csvRow cells).toList ++ rest) = read ',' st' rest ∧ st'.inQuotes = false ∧
      st'.endRow = { st with
        rows := st.rows ++ [st.row ++ cells.map CsvValue.decoded], row := [] } ∧
      (st.row ≠ [] ∨ 2 ≤ cells.length → st'.row ≠ []) := by
  induction cells generalizing st with
  | nil => exact absurd rfl hcells
  | cons v cells ih =>
    cases cells with
    | nil =>
      refine ⟨st.put (neutralize v.toText), ?_, hst, ?_, ?_⟩
      · rw [csvRow, List.map_singleton, join, String.intercalate_singleton]
        exact read_csvCell hst v h
      · rw [endRow, put, hfield, List.nil_append]
        rfl
      · rintro (hrow | hlength)
        · exact hrow
        · exact absurd hlength (by simp)
    | cons w cells =>
      have hput : (st.put (neutralize v.toText)).inQuotes = false := hst
      have hnext : (st.put (neutralize v.toText)).endField.inQuotes = false := hst
      obtain ⟨st', hread, hst', hend, hrow⟩ := ih hnext rfl (List.cons_ne_nil w cells)
      refine ⟨st', ?_, hst', ?_, fun _ => hrow (Or.inl ?_)⟩
      · have hjoin : (csvRow (v :: w :: cells)).toList =
            (csvCell v).toList ++ ',' :: (csvRow (w :: cells)).toList := by
          rw [csvRow, List.map_cons, List.map_cons, join_cons_cons, String.toList_append,
            String.toList_append, String.toList_singleton, List.append_assoc]
          rfl
        rw [hjoin, List.append_assoc, List.cons_append,
          read_csvCell hst v (noQuote_cons (by decide) _),
          read_delimiter hput (by decide)]
        exact hread
      · rw [hend, endField, put, hfield, List.nil_append, List.append_assoc]
        rfl
      · exact List.append_ne_nil_of_right_ne_nil _ (List.cons_ne_nil _ _)

/-- Rows are read as they were written. -/
theorem read_rows (hst : st.inQuotes = false) (hfield : st.field = []) (hrow : st.row = [])
    {rows : List (List CsvValue)} (hne : rows ≠ []) (hrows : ∀ cells ∈ rows, 2 ≤ cells.length) :
    ∃ st' : CsvState, read ',' st (join '\n' (rows.map csvRow)).toList = st' ∧
      st'.endRow.rows = st.rows ++ rows.map (List.map CsvValue.decoded) ∧ st'.row ≠ [] := by
  induction rows generalizing st with
  | nil => exact absurd rfl hne
  | cons cells rows ih =>
    have htwo := hrows cells List.mem_cons_self
    have hcells : cells ≠ [] := by
      rintro rfl
      exact absurd htwo (by simp)
    cases rows with
    | nil =>
      obtain ⟨st', hread, -, hend, hrow'⟩ := read_csvRow hst hfield hcells noQuote_nil
      refine ⟨st', ?_, ?_, hrow' (Or.inr htwo)⟩
      · rw [List.map_singleton, join, String.intercalate_singleton]
        rw [List.append_nil] at hread
        rw [hread, read]
      · rw [hend, hrow]
        rfl
    | cons cells' rows =>
      obtain ⟨st', hread, hst', hend, -⟩ := read_csvRow hst hfield hcells
        (noQuote_cons (show '\n' ≠ '"' by decide)
          (join '\n' ((cells' :: rows).map csvRow)).toList)
      have hstart : st'.endRow = { st with
          rows := st.rows ++ [cells.map CsvValue.decoded], row := [] } := by
        rw [hend, hrow, List.nil_append]
      have hnext : st'.endRow.inQuotes = false := hst'
      obtain ⟨st'', hread'', hend'', hrow''⟩ := ih hnext rfl rfl
        (List.cons_ne_nil cells' rows) fun cs hcs => hrows cs (List.mem_cons_of_mem cells hcs)
      refine ⟨st'', ?_, ?_, hrow''⟩
      · have hjoin : (join '\n' ((cells :: cells' :: rows).map csvRow)).toList =
            (csvRow cells).toList ++ '\n' :: (join '\n' ((cells' :: rows).map csvRow)).toList := by
          rw [List.map_cons, List.map_cons, join_cons_cons, String.toList_append,
            String.toList_append, String.toList_singleton, List.append_assoc]
          rfl
        rw [hjoin, hread, read_newline hst' (by decide)]
        exact hread''
      · rw [hend'', hstart, List.append_assoc]
        rfl

end CsvState

/-- The rows of a text that does not start with a byte-order mark are read as they were written. -/
theorem parseCsv_join {rows : List (List CsvValue)} (hne : rows ≠ [])
    (hrows : ∀ cells ∈ rows, 2 ≤ cells.length)
    (hbom : ∀ c ∈ (join '\n' (rows.map csvRow)).toList.head?, c ≠ '\uFEFF') :
    parseCsv (join '\n' (rows.map csvRow)) = rows.map (List.map CsvValue.decoded) := by
  have hstrip : stripBom (join '\n' (rows.map csvRow)).toList =
      (join '\n' (rows.map csvRow)).toList := by
    unfold stripBom
    split
    · rename_i cs heq
      rw [heq] at hbom
      exact absurd rfl (hbom _ rfl)
    · rfl
  have hstart : ({} : CsvState).inQuotes = false := rfl
  obtain ⟨st', hread, hend, hrow⟩ := CsvState.read_rows hstart rfl rfl hne hrows
  simp only [parseCsv, hstrip, hread]
  rw [if_pos (Or.inr (List.length_pos_iff.2 hrow)), hend]
  rfl

/-! ## What is read of a value -/

/-- What is read of a value is the value, and no formula. -/
def CsvValue.Decodes (v : CsvValue) (cell : String) : Prop :=
  match v with
  | text s => cell.toList = (if startsFormula s.toList then '\'' :: s.toList else s.toList) ∧
      startsFormula cell.toList = false
  | number x => numberOf cell = some x
  | flag b => cell = if b then "true" else "false"

/-- Rows with as many cells, each of them decoded. -/
def Decode (rows : List (List CsvValue)) (parsed : List (List String)) : Prop :=
  List.Forall₂ (List.Forall₂ CsvValue.Decodes) rows parsed

/-- The number of a value. -/
def CsvValue.number? : CsvValue → Option ℚ
  | number x => some x
  | _ => none

/-- The numbers that are written. -/
def numbersOf (rows : List (List CsvValue)) : List ℚ := rows.flatten.filterMap CsvValue.number?

theorem startsFormula_neutralize (cs : List Char) : startsFormula (neutralize cs) = false := by
  rw [neutralize]
  split_ifs with h
  · rfl
  · exact Bool.eq_false_iff.2 h

/-- A text with an apostrophe in front is no number. -/
theorem numberOf_apostrophe (cs : List Char) : numberOf (String.ofList ('\'' :: cs)) = none := by
  obtain ⟨ds, hds⟩ : ∃ ds, trimList ('\'' :: cs) = '\'' :: ds := by
    have hdrop : ('\'' :: cs).dropWhile isSpace = '\'' :: cs := rfl
    rw [trimList, hdrop, List.reverse_cons, List.dropWhile_append]
    split_ifs with h
    · exact ⟨[], rfl⟩
    · exact ⟨(cs.reverse.dropWhile isSpace).reverse, by
        rw [List.reverse_append, List.reverse_singleton, List.singleton_append]⟩
  rw [numberOf, String.toList_ofList, hds]
  rfl

/-- The text of a number starts as a formula if the number is negative. -/
theorem startsFormula_numberText (x : ℚ) : startsFormula (numberText x) = decide (x < 0) := by
  unfold numberText
  by_cases h0 : x = 0
  · rw [if_pos h0, h0]
    rfl
  rw [if_neg h0]
  by_cases hneg : x < 0
  · simp only [hneg, if_true]
    rfl
  · have hne : (significand x).1 ≠ [] := toDigits_ne_nil _
    have hwf := numeral_wf hne (fun c hc => isDigit_toDigits hc) (significand x).2
    obtain ⟨c, cs, hwhole⟩ := List.exists_cons_of_ne_nil hwf.nonempty
    have hdigit : c.isDigit := hwf.whole c (by rw [hwhole]; exact List.mem_cons_self)
    have hformula : formulaStart c = false := by
      rw [formulaStart, List.contains_eq_mem, decide_eq_false_iff_not]
      intro hmem
      simp only [List.mem_cons, List.not_mem_nil, or_false] at hmem
      rcases hmem with rfl | rfl | rfl | rfl | rfl | rfl <;> exact absurd hdigit (by decide)
    simp only [hneg, if_false, List.nil_append, decide_false, Numeral.text, hwhole]
    exact hformula

/-- A value is read back, unless it is a negative number. -/
theorem decodes_iff {v : CsvValue} (hdecimal : ∀ x ∈ v.number?, IsDecimal x) :
    v.Decodes v.decoded ↔ ∀ x ∈ v.number?, 0 ≤ x := by
  cases v with
  | text s =>
    simp only [CsvValue.number?, Option.not_mem_none, false_imp_iff, implies_true, iff_true]
    refine ⟨?_, ?_⟩
    · rw [CsvValue.decoded, String.toList_ofList]
      rfl
    · rw [CsvValue.decoded, String.toList_ofList]
      exact startsFormula_neutralize _
  | flag b =>
    simp only [CsvValue.number?, Option.not_mem_none, false_imp_iff, implies_true, iff_true]
    cases b <;> rfl
  | number x =>
    have hx : IsDecimal x := hdecimal x rfl
    have hmem : (∀ y ∈ (CsvValue.number x).number?, 0 ≤ y) ↔ ¬ x < 0 := by
      rw [not_lt]
      exact ⟨fun h => h x rfl, fun h y hy => Option.some.inj hy ▸ h⟩
    rw [hmem]
    show numberOf (String.ofList (neutralize (numberText x))) = some x ↔ ¬ x < 0
    rw [neutralize, startsFormula_numberText]
    by_cases hneg : x < 0
    · rw [if_pos (decide_eq_true hneg), numberOf_apostrophe]
      simp [hneg]
    · rw [if_neg (by simpa using hneg), numberOf_numberText hx]
      simp [hneg]

theorem decode_iff {rows : List (List CsvValue)} (hdecimal : ∀ x ∈ numbersOf rows, IsDecimal x) :
    Decode rows (rows.map (List.map CsvValue.decoded)) ↔ ∀ x ∈ numbersOf rows, 0 ≤ x := by
  have hnumbers : ∀ p : ℚ → Prop, (∀ x ∈ numbersOf rows, p x) ↔
      ∀ cells ∈ rows, ∀ v ∈ cells, ∀ x ∈ v.number?, p x := by
    intro p
    simp only [numbersOf, List.mem_filterMap, List.mem_flatten]
    constructor
    · intro h cells hcells v hv x hx
      exact h x ⟨v, ⟨cells, hcells, hv⟩, hx⟩
    · rintro h x ⟨v, ⟨cells, hcells, hv⟩, hx⟩
      exact h cells hcells v hv x hx
  rw [hnumbers] at hdecimal ⊢
  rw [Decode, List.forall₂_map_right_iff, List.forall₂_same]
  refine forall₂_congr fun cells hcells => ?_
  rw [List.forall₂_map_right_iff, List.forall₂_same]
  exact forall₂_congr fun v hv => decodes_iff (hdecimal cells hcells v hv)

/-! ## The exports are read back -/

theorem head_join {c : Char} {f : String} (fs : List String) (h : f.toList ≠ []) :
    (join c (f :: fs)).toList.head? = f.toList.head? := by
  cases fs with
  | nil => rw [join, String.intercalate_singleton]
  | cons g fs =>
    rw [join_cons_cons, String.toList_append, String.toList_append, List.append_assoc,
      List.head?_append_of_ne_nil _ h]

/-- The text of rows starts with the first cell. -/
theorem head_rows {v : CsvValue} (cells : List CsvValue) (rows : List (List CsvValue))
    (h : (csvCell v).toList ≠ []) :
    (join '\n' (((v :: cells) :: rows).map csvRow)).toList.head? = (csvCell v).toList.head? := by
  have hrow : (csvRow (v :: cells)).toList.head? = (csvCell v).toList.head? := head_join _ h
  have hne : (csvRow (v :: cells)).toList ≠ [] := by
    intro hnil
    rw [hnil, eq_comm, List.head?_nil, List.head?_eq_none_iff] at hrow
    exact h hrow
  rw [List.map_cons, head_join _ hne, hrow]

theorem parseCsv_reconciliationCsv (e : ReconciliationExport ℚ) :
    parseCsv (reconciliationCsv e) =
      (reconciliationRows e).map (List.map CsvValue.decoded) := by
  refine parseCsv_join (List.cons_ne_nil _ _) ?_ ?_
  · intro cells hcells
    rcases List.mem_cons.1 hcells with rfl | hcells
    · decide
    · obtain ⟨o, -, rfl⟩ := List.mem_map.1 hcells
      show 2 ≤ 14
      omega
  · intro c hc
    rw [reconciliationRows, reconciliationHeader, head_rows _ _ (by decide)] at hc
    rw [← Option.some.inj hc]
    decide

theorem parseCsv_feeWorksheetCsv (e : ReconciliationExport ℚ) :
    parseCsv (feeWorksheetCsv e) =
      (feeWorksheetRows e).map (List.map CsvValue.decoded) := by
  refine parseCsv_join (List.cons_ne_nil _ _) ?_ ?_
  · intro cells hcells
    have hlength : (feeWorksheetRows e).map List.length = List.replicate 18 2 := rfl
    have hmem : cells.length ∈ (feeWorksheetRows e).map List.length := List.mem_map_of_mem hcells
    rw [hlength] at hmem
    exact (List.eq_of_mem_replicate hmem).ge
  · intro c hc
    rw [feeWorksheetRows, head_rows _ _ (by decide)] at hc
    rw [← Option.some.inj hc]
    decide

/-- For every export whose numbers have a text: what is read of either file is what was written, if
    and only if no number of the file is negative. -/
theorem csv_decodes_iff {e : ReconciliationExport ℚ}
    (hrows : ∀ x ∈ numbersOf (reconciliationRows e), IsDecimal x)
    (hfee : ∀ x ∈ numbersOf (feeWorksheetRows e), IsDecimal x) :
    (Decode (reconciliationRows e) (parseCsv (reconciliationCsv e)) ↔
      ∀ x ∈ numbersOf (reconciliationRows e), 0 ≤ x) ∧
    (Decode (feeWorksheetRows e) (parseCsv (feeWorksheetCsv e)) ↔
      ∀ x ∈ numbersOf (feeWorksheetRows e), 0 ≤ x) := by
  rw [parseCsv_reconciliationCsv, parseCsv_feeWorksheetCsv]
  exact ⟨decode_iff hrows, decode_iff hfee⟩

/-- The files of a month without negative numbers. -/
theorem csv_decodes_recovered :
    Decode (reconciliationRows (Sample.exportOf Sample.allRecovered))
      (parseCsv (reconciliationCsv (Sample.exportOf Sample.allRecovered))) :=
  (csv_decodes_iff (by decide +kernel) (by decide +kernel)).1.2 (by decide +kernel)

namespace Sample

/-- Nothing is recovered in a month, and 1000 were billed before. -/
def creditMonth : ReconciliationParams ℚ := { monthOf [] with priorBilledDollars := some 1000 }

end Sample

/-- The fee of a month is a credit: what is read of it is no number. -/
theorem csv_decodes_fails : ∃ e,
    buildReconciliationExport Sample.reconciliationContext Sample.creditMonth = .ok e ∧
    e.fee.fee = -120 ∧
    (parseCsv (feeWorksheetCsv e))[10]? = some ["fee_minor", "'-120"] ∧
    numberOf "'-120" = none := by
  refine ⟨_, Sample.exported (p := Sample.creditMonth) (Sample.month_admitted []), ?_, ?_, ?_⟩
  · decide +kernel
  · have hfee : (Sample.exportOf Sample.creditMonth).fee.fee = -120 := by decide +kernel
    rw [parseCsv_feeWorksheetCsv]
    show some [CsvValue.decoded (.text "fee_minor"),
      CsvValue.decoded (.number (Sample.exportOf Sample.creditMonth).fee.fee)] = _
    rw [hfee]
    decide +kernel
  · decide +kernel

end AX10M
