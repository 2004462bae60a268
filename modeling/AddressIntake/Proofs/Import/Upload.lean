import AddressIntake.Proofs.Columns
import AddressIntake.Proofs.Findings
import AddressIntake.Proofs.Import.Prediction
import AddressIntake.Proofs.Table

namespace AddressIntake

/-- Whether a data row has a cell that is not blank, in whatever column. -/
def Table.isFilledRow (row : List String) : Bool :=
  row.any (!Text.isBlank ·)

theorem Table.isFilledRow_eq_not_isBlankRow {row : List String}
    (htrimmed : ∀ cell ∈ row, Text.isBlank cell = cell.isEmpty) :
    isFilledRow row = !isBlankRow row := by
  rw [isFilledRow, isBlankRow, List.not_all_eq_any_not, Bool.eq_iff_iff, List.any_eq_true,
    List.any_eq_true]
  exact exists_congr fun cell => and_congr_right fun hcell => by rw [htrimmed cell hcell]

theorem Columns.isFilledRow_of_holds {columns : Columns} {cells : List String}
    (hholds : columns.holds cells = true) : Table.isFilledRow cells = true := by
  obtain ⟨entry, hpair, hentry⟩ := List.any_eq_true.1 hholds
  obtain ⟨_, hvisible⟩ := Bool.and_eq_true_iff.1 hentry
  exact List.any_eq_true.2 ⟨entry.2, (List.of_mem_zip hpair).2, hvisible⟩

namespace ValidationResult

/-- Whether some error carries the number of the row at an index. -/
def blames (result : ValidationResult) (index : Nat) : Bool :=
  result.errors.any (·.row == Row.number index)

/-- The result of a check accounts for the data rows of a table: it counts those with a value in a
column with a field, and each of them is valid or has an error. -/
structure AccountsFor (result : ValidationResult) (columns : Columns) (data : List (List String)) :
    Prop where
  totalRows_eq : result.totalRows = data.countP columns.holds
  validRows_eq : result.validRows =
    data.zipIdx.countP fun entry => columns.holds entry.1 && !result.blames entry.2
  errorRows_eq : result.errorRows =
    data.zipIdx.countP fun entry => columns.holds entry.1 && result.blames entry.2
  exists_row : ∀ e ∈ result.errors, ∃ (index : Nat) (cells : List String),
    data[index]? = some cells ∧ columns.holds cells = true ∧ e.row = Row.number index

variable (kind : AddressKind) (required : List String) (lookup : Option ShipToLookup)

theorem blames_summarize {rows : List Row} {entry : Row × Nat} (hentry : entry ∈ rows.zipIdx) :
    (summarize rows (Validation.checkRows kind required lookup rows)).blames entry.2 =
      Validation.isFaulty kind required lookup entry :=
  Validation.any_row_checkRows hentry

/-- The result of a check of data rows under their columns. -/
def ofData (columns : Columns) (data : List (List String)) : ValidationResult :=
  summarize (columns.rows data) (Validation.checkRows kind required lookup (columns.rows data))

variable {columns : Columns} (hnodup : columns.held.Nodup) (data : List (List String))

include hnodup

/-- A data row is faulty if it counts and has an error. -/
theorem isFaulty_row {entry : List String × Nat} (hentry : entry ∈ data.zipIdx) :
    Validation.isFaulty kind required lookup (columns.row entry.1, entry.2) =
      (columns.holds entry.1 && (ofData kind required lookup columns data).blames entry.2) := by
  have hrow : (columns.row entry.1, entry.2) ∈ (columns.rows data).zipIdx := by
    rw [List.mem_zipIdx_iff_getElem?] at hentry ⊢
    rw [Columns.rows, List.getElem?_map, hentry, Option.map_some]
  rw [ofData, blames_summarize kind required lookup hrow, Validation.isFaulty,
    Columns.isBlank_row hnodup, Bool.not_not, Bool.and_self_left]

theorem errorRows_ofData :
    (ofData kind required lookup columns data).errorRows = data.zipIdx.countP fun entry =>
      columns.holds entry.1 && (ofData kind required lookup columns data).blames entry.2 := by
  have hcount : (ofData kind required lookup columns data).errorRows = data.zipIdx.countP fun entry =>
      Validation.isFaulty kind required lookup (columns.row entry.1, entry.2) := by
    rw [ofData, summarize, Validation.errorRowCount_checkRows, Columns.rows, List.zipIdx_map,
      List.countP_map]
    rfl
  rw [hcount]
  exact List.countP_congr fun entry hentry => by
    rw [isFaulty_row kind required lookup hnodup data hentry]

/-- The rows that count and have no error are what is left of all that count. -/
theorem validRows_ofData :
    (ofData kind required lookup columns data).validRows = data.zipIdx.countP fun entry =>
      columns.holds entry.1 && !(ofData kind required lookup columns data).blames entry.2 := by
  have hindexed : data.countP columns.holds =
      data.zipIdx.countP fun entry => columns.holds entry.1 := by
    conv => lhs; rw [← List.zipIdx_map_fst 0 data, List.countP_map]
    rfl
  have hsplit := List.countP_eq_countP_filter_add data.zipIdx (fun entry => columns.holds entry.1)
    fun entry => (ofData kind required lookup columns data).blames entry.2
  rw [List.countP_filter, List.countP_filter, ← errorRows_ofData kind required lookup hnodup data,
    ← hindexed, ← Columns.filledCount_rows hnodup data] at hsplit
  exact Nat.sub_eq_of_eq_add' hsplit

/-- A check of data rows accounts for them. -/
theorem accountsFor_ofData :
    (ofData kind required lookup columns data).AccountsFor columns data where
  totalRows_eq := Columns.filledCount_rows hnodup data
  validRows_eq := validRows_ofData kind required lookup hnodup data
  errorRows_eq := errorRows_ofData kind required lookup hnodup data
  exists_row e he := by
    obtain ⟨⟨row, index⟩, hentry, hfaulty, hnumber⟩ :=
      Validation.exists_mem_checkRows_iff.1 ⟨e, he, rfl⟩
    rw [List.mem_zipIdx_iff_getElem?, Columns.rows, List.getElem?_map] at hentry
    obtain ⟨cells, hcells, rfl⟩ := Option.map_eq_some_iff.1 hentry
    have hentry : (cells, index) ∈ data.zipIdx := List.mem_zipIdx_iff_getElem?.2 hcells
    have hrow := (isFaulty_row kind required lookup hnodup data hentry).symm.trans hfaulty
    exact ⟨index, cells, hcells, (Bool.and_eq_true_iff.1 hrow).1, hnumber.symm⟩

end ValidationResult

namespace Pipeline

/-- The preview of an upload is the preview of the rows of its table, with their source noted. -/
theorem ends_previewUpload_iff {document : Document} {fileKind : FileKind} {project : String}
    {kind : AddressKind} {transcript : Transcript} {result : Except ImportError ValidationResult} :
    Ends (previewUpload document fileKind project kind) transcript result ↔
      (∃ e, Table.parse fileKind document = .error e ∧ transcript = [] ∧
        result = .error (.parse e)) ∨
      ∃ (table : Table) (checked : Except ImportError ValidationResult),
        let columns := Columns.ofHeaders (Schema.fields kind) table.headers
        Table.parse fileKind document = .ok table ∧
        Ends (previewRows project kind (columns.rows table.rows)) transcript checked ∧
        result = checked.map fun found => { found with source := tableSource table columns } := by
  simp only [previewUpload, ends_bind_iff, ends_log_iff]
  cases hparse : Table.parse fileKind document with
  | error e =>
    constructor
    · rintro ⟨_, _, _, rfl, rfl, rfl, rfl⟩
      exact .inl ⟨e, rfl, rfl, rfl⟩
    · rintro (⟨_, hsame, rfl, rfl⟩ | ⟨_, _, hother, _, _⟩)
      · cases hsame
        exact ⟨[], (), [], rfl, rfl, rfl, rfl⟩
      · cases hother
  | ok table =>
    simp only [ends_bind_iff, ends_logAll_iff]
    constructor
    · rintro ⟨_, _, _, rfl, rfl, _, _, _, rfl, rfl, first, checked, second, rfl, hcheck, hends⟩
      refine .inr ⟨table, checked, rfl, ?_, ?_⟩
      · cases checked <;> obtain ⟨rfl, _⟩ := hends <;> simpa using hcheck
      · cases checked <;> obtain ⟨_, rfl⟩ := hends <;> rfl
    · rintro (⟨_, hother, _, _⟩ | ⟨_, checked, hsame, hcheck, rfl⟩)
      · cases hother
      · cases hsame
        refine ⟨[], (), transcript, rfl, rfl, [], (), transcript, rfl, rfl, transcript, checked, [],
          by simp, hcheck, ?_⟩
        cases checked <;> exact ⟨rfl, rfl⟩

theorem run_previewUpload_of_run_previewRows {σ : Type} {store : Store (StateM σ)} {before after : σ}
    {document : Document} {fileKind : FileKind} {project : String} {kind : AddressKind}
    {table : Table} {columns : Columns} {result : ValidationResult}
    (hparse : Table.parse fileKind document = .ok table)
    (hcolumns : Columns.ofHeaders (Schema.fields kind) table.headers = columns)
    (hrun : run store (previewRows project kind (columns.rows table.rows)) before =
      (.ok result, after)) :
    run store (previewUpload document fileKind project kind) before =
      (.ok { result with source := tableSource table columns }, after) := by
  subst hcolumns
  obtain ⟨transcript, hends, hfollows⟩ := run_eq_iff.1 hrun
  exact run_eq_iff.2
    ⟨transcript, ends_previewUpload_iff.2 (.inr ⟨table, _, hparse, hends, rfl⟩), hfollows⟩

end Pipeline

open Pipeline

/-- A store in memory answers whatever a preview asks. -/
theorem MemoryStore.run_answer_previewUpload (store : MemoryStore) (project : String)
    (kind : AddressKind) {document : Document} {fileKind : FileKind} {table : Table}
    (hparse : Table.parse fileKind document = .ok table) :
    let columns := Columns.ofHeaders (Schema.fields kind) table.headers
    let rows := columns.rows table.rows
    run answer (previewUpload document fileKind project kind) store =
      (.ok { ValidationResult.summarize rows
          (store.errorsOf project kind rows (store.shipToAnswer project)) with
        source := tableSource table columns }, store) := by
  intro columns rows
  exact run_previewUpload_of_run_previewRows hparse rfl
    (run_answer_previewRows store project kind rows)

namespace Pipeline

variable {σ : Type} {store : Store (StateM σ)} {before after : σ} {document : Document}
  {fileKind : FileKind} {project : String} {kind : AddressKind} {result : ValidationResult}

/-- Whatever the file and the store, a preview that is made counts the data rows with a value in a
column with a field, and each of them is valid or has an error with its number. A table always has a
data row with a value. If its values lie in columns with fields, then all data rows with a value
are counted, and there is at least one. -/
theorem previewUpload_accounts_for_rows
    (hrun : run store (previewUpload document fileKind project kind) before = (.ok result, after)) :
    ∃ table : Table,
      let columns := Columns.ofHeaders (Schema.fields kind) table.headers
      Table.parse fileKind document = .ok table ∧
      result.AccountsFor columns table.rows ∧
      (∃ cells ∈ table.rows, Table.isFilledRow cells = true) ∧
      ((∀ cells ∈ table.rows, Table.isFilledRow cells = true → columns.holds cells = true) →
        result.totalRows = table.rows.countP Table.isFilledRow ∧ 0 < result.totalRows) := by
  obtain ⟨transcript, hends, _⟩ := run_eq_iff.1 hrun
  obtain ⟨_, _, _, hother⟩ | ⟨table, checked, hparse, hcheck, hresult⟩ :=
    ends_previewUpload_iff.1 hends
  · cases hother
  obtain ⟨_, _, rfl⟩ | ⟨errors, hstored, rfl⟩ := ends_previewRows_iff.1 hcheck
  · cases hresult
  obtain ⟨_, _, hother⟩ | ⟨policy, _, lookup, _, _, herrors⟩ := ends_checkStored_iff.1 hstored
  · cases hother
  cases herrors
  have haccounts : result.AccountsFor (Columns.ofHeaders (Schema.fields kind) table.headers)
      table.rows := by
    have hchecked := ValidationResult.accountsFor_ofData kind
      (Policy.requiredKeys (Schema.fields kind) (Policy.flagsOf policy)) lookup
      (Columns.nodup_held_ofHeaders (Schema.fields kind) table.headers) table.rows
    cases hresult
    exact ⟨hchecked.1, hchecked.2, hchecked.3, hchecked.4⟩
  have hfilled : ∃ cells ∈ table.rows, Table.isFilledRow cells = true := by
    obtain ⟨rows, _, _, htable, htrimmed⟩ := Table.exists_rows_of_parse hparse
    obtain ⟨_, _, rfl, _, _, hlast⟩ := Table.exists_split_of_ofRows htable
    obtain ⟨cells, hcells, hvisible⟩ := Option.map_eq_some_iff.1 hlast
    have hmem := List.mem_of_getLast? hcells
    refine ⟨cells, hmem, ?_⟩
    rw [Table.isFilledRow_eq_not_isBlankRow (htrimmed cells (by simp [hmem])), hvisible]
    rfl
  refine ⟨table, hparse, haccounts, hfilled, fun hmapped => ?_⟩
  have hcount := List.countP_congr fun cells hcells =>
    ⟨Columns.isFilledRow_of_holds, hmapped cells hcells⟩
  rw [haccounts.totalRows_eq, hcount]
  exact ⟨rfl, List.countP_pos_iff.2 hfilled⟩

/-- Two rows of a file with a repeated column, a blank line and rows of other widths. -/
theorem previewUpload_accounts_for_ragged_rows :
    let store := MemoryStore.empty fun _ => ⟨.zero, .epoch⟩
    let text := "City,Fax,city *\nSalem\n\n,,\nRome,555,,x\n"
    let document := Document.bytes (Text.Utf8.encode text.toList) "ascii"
    ∃ (table : Table) (result : ValidationResult),
      run MemoryStore.answer (previewUpload document .csv "p" .shipTo) store =
        (.ok result, store) ∧
      result.AccountsFor (Columns.ofHeaders (Schema.fields .shipTo) table.headers) table.rows ∧
      table.rows.length = 4 ∧ result.totalRows = 2 := by
  intro store text document
  have hparse : Table.parse .csv document = .ok ⟨.csv, ["City", "Fax", "city *"],
      [["Salem"], [], ["", "", ""], ["Rome", "555", "", "x"]], some "utf-8", some ','⟩ := by
    decide +kernel
  have hrun := MemoryStore.run_answer_previewUpload store "p" .shipTo hparse
  obtain ⟨table, hsame, haccounts, _, hmapped⟩ := previewUpload_accounts_for_rows hrun
  cases hparse.symm.trans hsame
  obtain ⟨htotal, _⟩ := hmapped (by decide +kernel)
  exact ⟨_, _, hrun, haccounts, rfl, htotal.trans (by decide +kernel)⟩

/-- The only value of the file lies in an ignored column. -/
theorem previewUpload_overlooks_ignored_columns :
    let store := MemoryStore.empty fun _ => ⟨.zero, .epoch⟩
    let document := Document.bytes (Text.Utf8.encode "Fax,City\n555,\n".toList) "ascii"
    ∃ (table : Table) (result : ValidationResult),
      Table.parse .csv document = .ok table ∧
      run MemoryStore.answer (previewUpload document .csv "p" .shipTo) store =
        (.ok result, store) ∧
      table.rows.countP Table.isFilledRow = 1 ∧
      result.totalRows = 0 ∧ result.isClean = true := by
  intro store document
  have hparse : Table.parse .csv document =
      .ok ⟨.csv, ["Fax", "City"], [["555", ""]], some "utf-8", some ','⟩ := by decide
  have hrun := MemoryStore.run_answer_previewUpload store "p" .shipTo hparse
  exact ⟨_, _, hparse, hrun, by decide, by decide, rfl⟩

end Pipeline

end AddressIntake
