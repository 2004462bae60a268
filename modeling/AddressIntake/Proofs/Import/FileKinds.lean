import AddressIntake.Proofs.Delimited.Writer
import AddressIntake.Proofs.Extent
import AddressIntake.Proofs.Import.Upload

namespace AddressIntake

open Table (IsShift isBlankRow isBlankRow_of_forall₂)

namespace Delimited

/-- A line is written for the texts of a row, cell by cell. Empty texts at the end may be left out
or added. -/
def Line.Spells (line : Line) (texts : List String) : Prop :=
  ∃ (cells : List String) (m n : Nat),
    line.values = (cells ++ List.replicate m "").map String.toList ∧
    texts = cells ++ List.replicate n ""

/-- The lines of a text are written for rows of texts. Empty lines may follow the last of them. -/
def Layout.Spells (layout : Layout) (rows : List (List String)) : Prop :=
  ∃ count, List.Forall₂ Line.Spells layout.lines (rows ++ List.replicate count [])

theorem Line.Spells.isShift {line : Line} {texts : List String} (hspells : line.Spells texts) :
    IsShift 0 line.row (texts.map Text.trim) := by
  obtain ⟨cells, m, n, hvalues, rfl⟩ := hspells
  have hempty : Text.trim "" = "" := by decide
  have htrim (count : Nat) : (cells ++ List.replicate count "").map Text.trim =
      cells.map Text.trim ++ List.replicate count "" := by
    rw [List.map_append, List.map_replicate, hempty]
  have hrow : line.row = (cells ++ List.replicate m "").map Text.trim := by
    rw [row, hvalues, List.map_map]
    refine List.map_congr_left fun text _ => ?_
    rw [Function.comp_apply, cellText_eq_trim, String.ofList_toList]
  refine ⟨fun i => ?_, fun i hi => absurd hi (Nat.not_lt_zero i)⟩
  rw [hrow, htrim, htrim, Table.cellAt_append_replicate, Table.cellAt_append_replicate, Nat.zero_add]

theorem exists_append_of_forall₂ {α β : Type} {related : α → β → Prop} {xs : List α}
    {ys ys' : List β} (hall : List.Forall₂ related xs (ys ++ ys')) :
    ∃ front back, xs = front ++ back ∧ List.Forall₂ related front ys ∧
      List.Forall₂ related back ys' :=
  ⟨_, _, (List.take_append_drop ys.length xs).symm, List.forall₂_take_append xs ys ys' hall,
    List.forall₂_drop_append xs ys ys' hall⟩

/-- The rows of a text that is written for rows of texts show the same cells, apart from blank rows
at the end. -/
theorem Layout.Spells.exists_lines {sep : Char} (hsep : IsSeparator sep) {layout : Layout}
    (hvalid : layout.IsValid sep) {rows : List (List String)} (hspells : layout.Spells rows) :
    ∃ lines, List.Forall₂ (IsShift 0) lines (rows.map (·.map Text.trim)) ∧
      ∀ (kind : FileKind) (encoding : Option String) (separator : Option Char),
        Table.ofRows kind (read sep (layout.text sep)) encoding separator =
          Table.ofRows kind lines encoding separator := by
  obtain ⟨count, hlines⟩ := hspells
  obtain ⟨written, more, hsplit, hwritten, hmore⟩ := exists_append_of_forall₂ hlines
  have hshift {lines : List Line} {rows : List (List String)}
      (hall : List.Forall₂ Line.Spells lines rows) :
      List.Forall₂ (IsShift 0) (lines.map Line.row) (rows.map (·.map Text.trim)) := by
    rw [List.forall₂_map_left_iff, List.forall₂_map_right_iff]
    exact hall.imp fun _ _ hline => hline.isShift
  have hblank : ∀ row ∈ more.map Line.row, isBlankRow row = true :=
    isBlankRow_of_forall₂ (hshift hmore) (by simp [isBlankRow])
  -- What the reader does not return are the empty lines after the last record.
  have hread : layout.lines.map Line.row = read sep (layout.text sep) ++
      (layout.lines.reverse.takeWhile List.isEmpty).reverse.map Line.row := by
    rw [hvalid.read_text hsep, ← List.map_append, List.rdropWhile, ← List.reverse_append,
      List.takeWhile_append_dropWhile, List.reverse_reverse]
  have hempty : ∀ row ∈ (layout.lines.reverse.takeWhile List.isEmpty).reverse.map Line.row,
      isBlankRow row = true := by
    intro row hrow
    obtain ⟨line, hline, rfl⟩ := List.mem_map.1 hrow
    rw [List.isEmpty_iff.1 (List.mem_takeWhile_imp (List.mem_reverse.1 hline))]
    rfl
  refine ⟨written.map Line.row, hshift hwritten, fun kind encoding separator => ?_⟩
  have hall : layout.lines.map Line.row = written.map Line.row ++ more.map Line.row := by
    rw [hsplit, List.map_append]
  calc Table.ofRows kind (read sep (layout.text sep)) encoding separator
      = Table.ofRows kind (layout.lines.map Line.row) encoding separator := by
        rw [hread]
        exact (Table.ofRows_append_append (List.forall_mem_nil _) hempty _ kind _ _).symm
    _ = Table.ofRows kind (written.map Line.row) encoding separator := by
        rw [hall]
        exact Table.ofRows_append_append (List.forall_mem_nil _) hblank _ kind _ _

/-- The characters of a text are those of its cells, and those that separate and quote them. -/
theorem Layout.exists_or_mem_of_mem_text {sep c : Char} {layout : Layout}
    (hmem : c ∈ layout.text sep) :
    (∃ line ∈ layout.lines, ∃ value ∈ line.values, c ∈ value) ∨ c ∈ [sep, '"', '\n', '\r'] := by
  have hline {line : Line} (hline : line ∈ layout.lines) (hc : c ∈ line.text sep) :
      (∃ line ∈ layout.lines, ∃ value ∈ line.values, c ∈ value) ∨ c ∈ [sep, '"', '\n', '\r'] := by
    obtain hbetween | ⟨piece, hpiece, hc⟩ := mem_or_exists_of_mem_intercalate hc
    · exact .inr (by simp_all)
    · obtain ⟨spelling, hspelling, rfl⟩ := List.mem_map.1 hpiece
      have hvalue : c ∈ spelling.value ∨ c = '"' := by
        cases spelling with
        | plain text => exact .inl hc
        | quoted content => exact mem_or_eq_of_mem_quoteCell hc
      obtain hvalue | rfl := hvalue
      · exact .inl ⟨line, hline, _, List.mem_map_of_mem hspelling, hvalue⟩
      · exact .inr (by simp)
  rw [text, List.mem_append, List.mem_flatMap] at hmem
  obtain ⟨⟨line, lineEnd⟩, hended, hc⟩ | hc := hmem
  · obtain hc | hc := List.mem_append.1 hc
    · exact hline (List.mem_append_left _ (List.mem_map_of_mem hended)) hc
    · have hend := isLineEnd_of_mem_text c hc
      rw [isLineEnd, Bool.or_eq_true, beq_iff_eq, beq_iff_eq] at hend
      exact .inr (by obtain rfl | rfl := hend <;> simp)
  · exact hline (List.mem_append_right _ (List.mem_singleton.2 rfl)) hc

/-- A text that is written for rows of texts holds a character only if one of them does, or if it
separates or quotes them. -/
theorem Layout.Spells.exists_or_mem {sep : Char} {layout : Layout} {rows : List (List String)}
    (hspells : layout.Spells rows) {c : Char} (hmem : c ∈ layout.text sep) :
    (∃ texts ∈ rows, ∃ text ∈ texts, c ∈ text.toList) ∨ c ∈ [sep, '"', '\n', '\r'] := by
  obtain ⟨line, hline, value, hvalue, hc⟩ | hformat := exists_or_mem_of_mem_text hmem
  · obtain ⟨count, hlines⟩ := hspells
    have hpairs : List.Forall₂
        (fun texts line => texts ∈ rows ++ List.replicate count [] ∧ Line.Spells line texts)
        (rows ++ List.replicate count []) layout.lines :=
      (List.forall₂_and_left _ _).2 ⟨fun _ hmem => hmem, hlines.flip⟩
    obtain ⟨_, htexts, cells, m, n, hvalues, rfl⟩ := exists_of_forall₂_of_mem hpairs hline
    rw [hvalues] at hvalue
    obtain ⟨text, htext, rfl⟩ := List.mem_map.1 hvalue
    obtain hcells | hend := List.mem_append.1 htext
    · obtain hrows | hnone := List.mem_append.1 htexts
      · exact .inl ⟨_, hrows, text, List.mem_append_left _ hcells, hc⟩
      · rw [(List.append_eq_nil_iff.1 (List.eq_of_mem_replicate hnone)).1] at hcells
        cases hcells
    · rw [List.eq_of_mem_replicate hend] at hc
      cases hc
  · exact .inr hformat

/-- The text of rows with all cells in quotes. -/
def Layout.quoted (rows : List (List String)) : Layout where
  ended := rows.map fun texts => (texts.map fun text => .quoted text.toList, .lf)
  last := []

theorem Layout.spells_quoted (rows : List (List String)) : (quoted rows).Spells rows := by
  refine ⟨1, ?_⟩
  have hline (texts : List String) :
      Line.Spells (texts.map fun text => .quoted text.toList) texts :=
    ⟨texts, 0, 0, by simp [Line.values, Spelling.value], by simp⟩
  rw [lines, quoted]
  refine List.rel_append ?_ (.cons (hline []) .nil)
  rw [List.map_map, List.forall₂_map_left_iff, List.forall₂_same]
  exact fun texts _ => hline texts

/-- Whatever the rows, they can be written with all cells in quotes. -/
theorem Layout.isValid_quoted (sep : Char) (rows : List (List String)) :
    (quoted rows).IsValid sep := by
  have hline (texts : List String) :
      Line.IsValid sep (texts.map fun text => .quoted text.toList) := by
    refine ⟨fun cell hcell => ?_, fun hne => ?_⟩
    · obtain ⟨text, _, rfl⟩ := List.mem_map.1 hcell
      exact trivial
    · cases texts with
      | nil => exact absurd rfl hne
      | cons text rest => simp [Line.text_cons, Spelling.text, quoteCell]
  refine ⟨fun line hmem => ?_, ?_, ?_⟩
  · rw [lines, quoted, List.map_map] at hmem
    rcases List.mem_append.1 hmem with hended | hlast
    · obtain ⟨texts, _, rfl⟩ := List.mem_map.1 hended
      exact hline texts
    · rw [List.mem_singleton.1 hlast]
      exact hline []
  · refine List.Pairwise.isChain (List.pairwise_of_forall_mem_list fun before hbefore _ _ hcr => ?_)
    obtain ⟨texts, _, rfl⟩ := List.mem_map.1 hbefore
    cases hcr
  · cases rows with
    | nil => simp [quoted, text, Line.text_nil]
    | cons texts rest =>
      cases texts with
      | nil => simp [quoted, text, Line.text_nil, LineEnd.text, Text.Encoding.byteOrderMark]
      | cons cell cells =>
        simp [quoted, text, Line.text_cons, Spelling.text, quoteCell, Text.Encoding.byteOrderMark]

end Delimited

namespace Table

/-- A worksheet and a text that is written for the texts of its cells are read as tables whose rows
show the same cells, or have too few rows both. -/
theorem parse_tsv_workbook {sheet : Worksheet} (hshown : sheet.IsShown)
    {rows : List (List String)} (htexts : rows.map (·.map Text.trim) = sheet.texts)
    (hbinary : ∀ texts ∈ rows, ∀ text ∈ texts, '\x00' ∉ text.toList) {layout : Delimited.Layout}
    (hvalid : layout.IsValid '\t') (hspells : layout.Spells rows) {charset : String}
    (hutf8 : Text.Encoding.ofDetected charset = "utf-8") {fileKind : FileKind}
    (hkind : fileKind.isSpreadsheet = true) (others : List Worksheet) :
    let document := Document.bytes (Text.Utf8.encode (layout.text '\t')) charset
    let workbook := Document.workbook (sheet :: others)
    (∃ found, parse .tsv document = .error (.insufficientRows found) ∧
      parse fileKind workbook = .error (.insufficientRows found)) ∨
    ∃ (left : Nat) (table shown : Table), parse .tsv document = .ok table ∧
      parse fileKind workbook = .ok shown ∧ isBlankRow table.headers = false ∧
      IsShift left table.headers shown.headers ∧
      List.Forall₂ (IsShift left) table.rows shown.rows := by
  intro document workbook
  have hsep : Delimited.IsSeparator '\t' := Delimited.isSeparator_of_mem (by decide)
  obtain ⟨lines, hlines, hread⟩ := hspells.exists_lines hsep hvalid
  obtain ⟨left, before, inner, after, grid, hgrid, hsheet, hbefore, hafter, hinner⟩ :=
    Worksheet.exists_grid_eq hshown
  rw [htexts, hsheet] at hlines
  obtain ⟨front, rest, rfl, hfront, hrest⟩ := Delimited.exists_append_of_forall₂ hlines
  obtain ⟨middle, back, rfl, hmiddle, hback⟩ := Delimited.exists_append_of_forall₂ hrest
  have hnul : '\x00' ∉ layout.text '\t' := fun hmem => by
    obtain ⟨texts, htexts, text, htext, hc⟩ | hformat := hspells.exists_or_mem hmem
    · exact hbinary texts htexts text htext hc
    · exact absurd hformat (by decide)
  have htext : parse .tsv document = ofRows .tsv middle (some "utf-8") (some '\t') := by
    rw [parse_encode rfl hutf8 hvalid.start, ofText, if_neg (by simpa using hnul)]
    simp only [beq_self_eq_true, ↓reduceIte, hread]
    exact ofRows_append_append (isBlankRow_of_forall₂ hfront hbefore)
      (isBlankRow_of_forall₂ hback hafter) middle .tsv _ _
  have hworkbook : parse fileKind workbook = ofRows fileKind grid none none := by
    rw [parse, if_pos hkind]
    simp only [worksheetRows, hgrid]
    rfl
  obtain ⟨found, hfew, hfew'⟩ | ⟨headers, data, headers', data', hok, hok', hfilled, hheaders, hdata⟩ :=
    ofRows_alike (fun _ _ hrow => hrow.isBlankRow_eq) (forall₂_isShift_trans hmiddle hinner) .tsv
      fileKind (some "utf-8") none (some '\t') none
  · exact .inl ⟨found, htext.trans hfew, hworkbook.trans hfew'⟩
  · exact .inr ⟨left, _, _, htext.trans hok, hworkbook.trans hok', hfilled, hheaders, hdata⟩

end Table

/-- A cell that holds a text, or no cell. -/
def Cell.ofText : Option String → Cell
  | some s => text s
  | none => absent

namespace Worksheet

/-- The worksheet whose cells hold the texts of a grid. -/
def ofTexts (grid : List (List (Option String))) : Worksheet :=
  grid.map (·.map Cell.ofText)

theorem shown_ofText (cell : Option String) :
    (Cell.ofText cell).shown = .ok (Text.trim (cell.getD "")) := by
  have hempty : Text.trim "" = "" := by decide
  cases cell with
  | none => rw [Option.getD_none, hempty]; rfl
  | some s => rfl

variable (grid : List (List (Option String)))

theorem isShown_ofTexts : (ofTexts grid).IsShown := by
  intro cells hcells cell hcell
  obtain ⟨row, _, rfl⟩ := List.mem_map.1 hcells
  obtain ⟨text, _, rfl⟩ := List.mem_map.1 hcell
  rw [Cell.displayed, shown_ofText]
  rfl

theorem texts_ofTexts :
    (grid.map (·.map (·.getD ""))).map (·.map Text.trim) = (ofTexts grid).texts := by
  rw [texts, ofTexts, List.map_map, List.map_map]
  refine List.map_congr_left fun row _ => ?_
  rw [Function.comp_apply, Function.comp_apply, List.map_map, List.map_map]
  refine List.map_congr_left fun cell _ => ?_
  rw [Function.comp_apply, Function.comp_apply, Cell.displayed, shown_ofText]
  rfl

end Worksheet

namespace Pipeline

section Run

variable {σ : Type} {document : Document} {fileKind : FileKind} (store : Store (StateM σ))
  (before : σ) (project : String) (kind : AddressKind)

/-- A file that is no table is not previewed. -/
theorem run_previewUpload_of_error {e : ParseError}
    (hparse : Table.parse fileKind document = .error e) :
    run store (previewUpload document fileKind project kind) before = (.error (.parse e), before) :=
  run_eq_iff.2 ⟨[], ends_previewUpload_iff.2 (.inl ⟨e, hparse, rfl, rfl⟩), rfl⟩

/-- The preview of a table is that of its rows, with their source noted. -/
theorem run_previewUpload_of_ok {table : Table}
    (hparse : Table.parse fileKind document = .ok table) :
    let columns := Columns.ofHeaders (Schema.fields kind) table.headers
    let checked := run store (previewRows project kind (columns.rows table.rows)) before
    run store (previewUpload document fileKind project kind) before =
      (checked.1.map fun found => { found with source := tableSource table columns }, checked.2) := by
  intro columns checked
  obtain ⟨transcript, hends, hfollows⟩ :=
    exists_transcript_run store (previewRows project kind (columns.rows table.rows)) before
  exact run_eq_iff.2
    ⟨transcript, ends_previewUpload_iff.2 (.inr ⟨table, _, hparse, hends, rfl⟩), hfollows⟩

end Run

/-- A grid of texts is previewed alike whether it is written as delimited text, in whatever way, or
kept as the cells of a worksheet, some of which may be absent. If there are too few rows, the same
number is found. Otherwise the result is the same apart from the source, which names the same ignored
columns, and the store is asked the same. Every grid can be written. -/
theorem previewUpload_of_text_and_workbook {grid : List (List (Option String))}
    (hbinary : ∀ row ∈ grid, ∀ cell ∈ row, ∀ text ∈ cell, '\x00' ∉ text.toList) :
    let rows := grid.map (·.map (·.getD ""))
    (∃ layout : Delimited.Layout, layout.IsValid '\t' ∧ layout.Spells rows) ∧
    ∀ layout : Delimited.Layout, layout.IsValid '\t' → layout.Spells rows →
      ∀ charset, Text.Encoding.ofDetected charset = "utf-8" →
      ∀ fileKind : FileKind, fileKind.isSpreadsheet = true →
      ∀ (others : List Worksheet) {σ : Type} (store : Store (StateM σ)) (before : σ)
        (project : String) (kind : AddressKind),
        let text := Document.bytes (Text.Utf8.encode (layout.text '\t')) charset
        let workbook := Document.workbook (Worksheet.ofTexts grid :: others)
        let ofText := run store (previewUpload text .tsv project kind) before
        let ofWorkbook := run store (previewUpload workbook fileKind project kind) before
        (∃ found, ofText = (.error (.parse (.insufficientRows found)), before) ∧
          ofWorkbook = (.error (.parse (.insufficientRows found)), before)) ∨
        ∃ (checked : Except ImportError ValidationResult) (after : σ) (source source' : Source),
          ofText = (checked.map fun result => { result with source := source }, after) ∧
          ofWorkbook = (checked.map fun result => { result with source := source' }, after) ∧
          source.unrecognized = source'.unrecognized := by
  intro rows
  refine ⟨⟨_, Delimited.Layout.isValid_quoted '\t' rows, Delimited.Layout.spells_quoted rows⟩, ?_⟩
  intro layout hvalid hspells charset hutf8 fileKind hkind others σ store before project kind
    text workbook ofText ofWorkbook
  have hcells : ∀ texts ∈ rows, ∀ text ∈ texts, '\x00' ∉ text.toList := by
    intro texts htexts text htext
    obtain ⟨row, hrow, rfl⟩ := List.mem_map.1 htexts
    obtain ⟨cell, hcell, rfl⟩ := List.mem_map.1 htext
    cases cell with
    | none => simp
    | some s => exact hbinary row hrow (some s) hcell s rfl
  obtain ⟨found, hfew, hfew'⟩ | ⟨left, table, shown, htable, hshown, hfilled, hheaders, hrows⟩ :=
    Table.parse_tsv_workbook (Worksheet.isShown_ofTexts grid) (Worksheet.texts_ofTexts grid) hcells
      hvalid hspells hutf8 hkind others
  · exact .inl ⟨found, run_previewUpload_of_error store before project kind hfew,
      run_previewUpload_of_error store before project kind hfew'⟩
  · obtain ⟨hunrecognized, hsame⟩ :=
      Columns.ofHeaders_of_isShift (Schema.fields kind) hheaders hfilled
    have hdata : (Columns.ofHeaders (Schema.fields kind) table.headers).rows table.rows =
        (Columns.ofHeaders (Schema.fields kind) shown.headers).rows shown.rows := by
      rw [Columns.rows, Columns.rows, ← List.forall₂_eq_eq_eq, List.forall₂_map_left_iff,
        List.forall₂_map_right_iff]
      exact hrows.imp hsame
    refine .inr ⟨_, _, _, tableSource shown _, run_previewUpload_of_ok store before project kind htable,
      ?_, hunrecognized⟩
    rw [hdata]
    exact run_previewUpload_of_ok store before project kind hshown

/-- A grid with an absent column in front, an unknown header, a blank row, and rows of other widths,
some of whose cells have to be quoted. -/
theorem previewUpload_of_text_and_workbook_of_ragged_rows :
    let grid := [[], [none, some "City", some " Fax", some "Street 1"], [none, some "Salem"], [some ""],
      [none, some "St. \"Ives\"", none, some "Main\nroad"], [none, none]]
    let layout : Delimited.Layout := ⟨[([], .lf),
      ([.plain [], .plain "City".toList, .plain " Fax".toList, .plain "Street 1".toList], .crlf),
      ([.plain [], .plain "Salem".toList], .lf), ([], .lf),
      ([.plain [], .plain "St. \"Ives\"".toList, .plain [], .quoted "Main\nroad".toList], .lf)],
      [.plain [], .plain []]⟩
    let store := MemoryStore.empty fun _ => ⟨.zero, .epoch⟩
    let text := Document.bytes (Text.Utf8.encode (layout.text '\t')) "ascii"
    ∃ (result : ValidationResult) (source : Source),
      run MemoryStore.answer (previewUpload text .tsv "p" .shipTo) store = (.ok result, store) ∧
      run MemoryStore.answer
          (previewUpload (.workbook [Worksheet.ofTexts grid]) .xlsx "p" .shipTo) store =
        (.ok { result with source := source }, store) ∧
      result.source.unrecognized = source.unrecognized ∧ result.totalRows = 2 := by
  intro grid layout store text
  have hbinary : ∀ row ∈ grid, ∀ cell ∈ row, ∀ text ∈ cell, '\x00' ∉ text.toList := by decide
  have hlines : ∀ line ∈ layout.lines, line.IsValid '\t' := by decide
  have hvalid : layout.IsValid '\t' := ⟨hlines, by decide, by decide⟩
  have hspells : layout.Spells (grid.map (·.map (·.getD ""))) :=
    ⟨0, .cons ⟨[], 0, 0, by decide, by decide⟩ <|
      .cons ⟨["", "City", " Fax", "Street 1"], 0, 0, by decide, by decide⟩ <|
      .cons ⟨["", "Salem"], 0, 0, by decide, by decide⟩ <|
      .cons ⟨[], 0, 1, by decide, by decide⟩ <|
      .cons ⟨["", "St. \"Ives\"", "", "Main\nroad"], 0, 0, by decide, by decide⟩ <|
      .cons ⟨["", ""], 0, 0, by decide, by decide⟩ .nil⟩
  have hparse : Table.parse .tsv text = .ok ⟨.tsv, ["", "City", "Fax", "Street 1"],
      [["", "Salem"], [], ["", "St. \"Ives\"", "", "Main\nroad"]], some "utf-8", some '\t'⟩ := by
    decide +kernel
  have hrun := MemoryStore.run_answer_previewUpload store "p" .shipTo hparse
  obtain ⟨found, hfew, _⟩ | ⟨checked, after, source, source', htext, hworkbook, hsame⟩ :=
    (previewUpload_of_text_and_workbook hbinary).2 layout hvalid hspells "ascii" (by decide) .xlsx
      (by decide) [] MemoryStore.answer store "p" .shipTo
  · cases hrun.symm.trans hfew
  · cases checked with
    | error e => cases hrun.symm.trans htext
    | ok result =>
      have hstore : after = store := congrArg Prod.snd (htext.symm.trans hrun)
      have hresult := Except.ok.inj (congrArg Prod.fst (htext.symm.trans hrun))
      have htotal := congrArg ValidationResult.totalRows hresult
      rw [hstore] at htext hworkbook
      exact ⟨_, source', htext, hworkbook, hsame, htotal.trans (by decide +kernel)⟩

end Pipeline

end AddressIntake
