import AddressIntake.Proofs.Delimited.Layout
import AddressIntake.Proofs.Text.Utf8
import AddressIntake.Proofs.Workbook
import AddressIntake.Table

namespace AddressIntake

theorem exists_first_of_countP_pos {α : Type} {p : α → Bool} {l : List α} (hpos : 0 < l.countP p) :
    ∃ (before : List α) (first : α) (after : List α), l = before ++ first :: after ∧
      (∀ x ∈ before, p x = false) ∧ p first = true := by
  obtain ⟨first, hfind⟩ := Option.isSome_iff_exists.1
    (List.find?_isSome.2 (List.countP_pos_iff.1 hpos))
  obtain ⟨hfirst, before, after, rfl, hbefore⟩ := List.find?_eq_some_iff_append.1 hfind
  exact ⟨before, first, after, rfl, by simpa using hbefore, hfirst⟩

/-- Two elements with a property are a first and a last one with it. -/
theorem exists_first_last_of_countP {α : Type} {p : α → Bool} {l : List α} (htwo : 2 ≤ l.countP p) :
    ∃ (before : List α) (first : α) (between : List α) (last : α) (after : List α),
      l = before ++ first :: (between ++ last :: after) ∧
      (∀ x ∈ before ++ after, p x = false) ∧ p first = true ∧ p last = true := by
  obtain ⟨before, first, rest, rfl, hbefore, hfirst⟩ := exists_first_of_countP_pos
    (Nat.lt_of_lt_of_le Nat.two_pos htwo)
  have hnone : before.countP p = 0 := List.countP_eq_zero.2 (by simpa using hbefore)
  have hrest : 0 < rest.reverse.countP p := by
    rw [List.countP_append, List.countP_cons_of_pos hfirst, hnone] at htwo
    rw [List.countP_reverse]
    omega
  obtain ⟨after, last, between, hreverse, hafter, hlast⟩ := exists_first_of_countP_pos hrest
  have hsplit : rest = between.reverse ++ last :: after.reverse := by
    rw [← List.reverse_reverse rest, hreverse]
    simp
  subst hsplit
  refine ⟨before, first, between.reverse, last, after.reverse, rfl, fun x hx => ?_, hfirst, hlast⟩
  rcases List.mem_append.1 hx with hx | hx
  · exact hbefore x hx
  · exact hafter x (List.mem_reverse.1 hx)

theorem Delimited.cellText_eq_trim (cs : List Char) :
    cellText cs = Text.trim (String.ofList cs) := by
  rw [cellText, Text.trim, String.toList_ofList]

theorem Delimited.isBlank_cellText (cs : List Char) :
    Text.isBlank (cellText cs) = (cellText cs).isEmpty := by
  rw [cellText_eq_trim]
  exact Text.isBlank_eq_isEmpty_of_trimmed (Text.trim_trim _)

namespace Table

/-- The first row that is not blank is the header, and the data rows run to the last one that is not
blank. -/
theorem ofRows_eq_ok {before rows : List (List String)} {headers : List String}
    (hbefore : ∀ row ∈ before, isBlankRow row = true) (hheaders : isBlankRow headers = false)
    (hrows : ∃ row ∈ rows, isBlankRow row = false) (kind : FileKind) (encoding : Option String)
    (separator : Option Char) :
    ofRows kind (before ++ headers :: rows) encoding separator =
      .ok ⟨kind, headers, rows.rdropWhile isBlankRow, encoding, separator⟩ := by
  have hfound : ¬ (before ++ headers :: rows).countP (!isBlankRow ·) < 2 := by
    obtain ⟨row, hrow, hfilled⟩ := hrows
    have hpos : 0 < rows.countP (!isBlankRow ·) :=
      List.countP_pos_iff.2 ⟨row, hrow, by simp [hfilled]⟩
    rw [List.countP_append, List.countP_cons_of_pos (by simp [hheaders])]
    omega
  have hend : ((before ++ headers :: rows).reverse.dropWhile isBlankRow).reverse =
      before ++ headers :: rows.rdropWhile isBlankRow :=
    rdropWhile_append_cons hheaders before rows
  have hstart : (before ++ headers :: rows.rdropWhile isBlankRow).dropWhile isBlankRow =
      headers :: rows.rdropWhile isBlankRow := by
    rw [List.dropWhile_append_of_pos hbefore, List.dropWhile_cons_of_neg (by simp [hheaders])]
  rw [ofRows]
  simp only [hfound, ↓reduceIte, hend, hstart]

/-- A table is a piece of its rows: the header, and data rows the last of which is not blank, with
blank rows around them. -/
theorem exists_split_of_ofRows {kind : FileKind} {rows : List (List String)}
    {encoding : Option String} {separator : Option Char} {table : Table}
    (htable : ofRows kind rows encoding separator = .ok table) :
    ∃ before after, rows = before ++ table.headers :: (table.rows ++ after) ∧
      (∀ row ∈ before ++ after, isBlankRow row = true) ∧ isBlankRow table.headers = false ∧
      table.rows.getLast?.map isBlankRow = some false := by
  have htwo : 2 ≤ rows.countP (!isBlankRow ·) := by
    by_contra hless
    rw [ofRows] at htable
    simp only [Nat.not_le.1 hless, ↓reduceIte, reduceCtorEq] at htable
  obtain ⟨before, headers, between, last, after, rfl, hblank, hheaders, hlast⟩ :=
    exists_first_last_of_countP htwo
  simp only [Bool.not_eq_true', Bool.not_eq_false'] at hblank hheaders hlast
  have hafter : ∀ row ∈ after, isBlankRow row = true := fun row hrow =>
    hblank row (List.mem_append_right before hrow)
  have hend : (between ++ last :: after).rdropWhile isBlankRow = between ++ [last] := by
    rw [rdropWhile_append_cons hlast, List.rdropWhile_eq_nil_iff.2 hafter]
  rw [ofRows_eq_ok (fun row hrow => hblank row (List.mem_append_left after hrow)) hheaders
    ⟨last, by simp, hlast⟩, hend] at htable
  cases htable
  exact ⟨before, after, by simp, hblank, hheaders, by simp [hlast]⟩

/-- The cells of a file that is read as a table are trimmed: what is not empty is not blank. -/
theorem exists_rows_of_parse {kind : FileKind} {document : Document} {table : Table}
    (htable : parse kind document = .ok table) :
    ∃ (rows : List (List String)) (encoding : Option String) (separator : Option Char),
      ofRows kind rows encoding separator = .ok table ∧
      ∀ row ∈ rows, ∀ cell ∈ row, Text.isBlank cell = cell.isEmpty := by
  rw [parse.eq_def] at htable
  split at htable
  · cases document with
    | bytes data charset => cases htable
    | workbook sheets =>
      cases sheets with
      | nil => cases htable
      | cons sheet others =>
        cases hgrid : sheet.grid with
        | error code =>
          simp only [worksheetRows, hgrid] at htable
          cases htable
        | ok rows =>
          simp only [worksheetRows, hgrid] at htable
          exact ⟨rows, none, none, htable, fun row hrow cell hcell =>
            Worksheet.isBlank_of_mem_grid hgrid hrow hcell⟩
  · cases document with
    | workbook sheets => cases htable
    | bytes data charset =>
      simp only [ofText] at htable
      split at htable
      · cases htable
      · refine ⟨_, _, _, htable, fun row hrow cell hcell => ?_⟩
        obtain ⟨cells, _, rfl⟩ := List.mem_map.1 hrow
        obtain ⟨cs, _, rfl⟩ := List.mem_map.1 hcell
        exact Delimited.isBlank_cellText cs

/-- The text of a file that is written as UTF-8, unless a byte order mark opens it. -/
theorem parse_encode {kind : FileKind} (hkind : kind.isSpreadsheet = false) {charset : String}
    (hutf8 : Text.Encoding.ofDetected charset = "utf-8") {cs : List Char}
    (hstart : cs.head? ≠ some Text.Encoding.byteOrderMark) :
    parse kind (.bytes (Text.Utf8.encode cs) charset) = ofText kind "utf-8" cs := by
  have hlatin : Text.Encoding.latinNames.contains (Text.lowercase "utf-8") = false := by decide
  have hdecode : Text.Encoding.decode "utf-8" (Text.Utf8.encode cs) = cs := by
    rw [Text.Encoding.decode]
    simp only [hlatin, Bool.false_eq_true, ↓reduceIte, Text.Utf8.decodeLossy_encode]
    cases cs with
    | nil => rfl
    | cons c cs => simpa using hstart
  rw [parse, if_neg (by simp [hkind])]
  simp only [hutf8, hdecode]

end Table

namespace Delimited.Layout

/-- Whether all cells of a line are blank. -/
def isBlankLine (line : Line) : Bool :=
  Table.isBlankRow line.row

/-- Every line of a delimited text up to the last record is one row, in its place: an empty line is
an empty row and a record the row of its trimmed cells. If two lines are not blank, the header of the
table is the first of them, and its data rows are the lines after it up to the last of them. -/
theorem lines_keep_their_places {sep : Char} (hsep : sep ∈ separators) {layout : Layout}
    (hvalid : layout.IsValid sep) :
    read sep (layout.text sep) = (layout.lines.rdropWhile List.isEmpty).map Line.row ∧
    ∀ (kind : FileKind) (encoding : Option String) (separator : Option Char),
      2 ≤ layout.lines.countP (!isBlankLine ·) →
      ∃ (table : Table) (before : List Line) (header : Line) (data : List Line) (after : List Line),
        Table.ofRows kind (read sep (layout.text sep)) encoding separator = .ok table ∧
        layout.lines = before ++ header :: (data ++ after) ∧
        (∀ line ∈ before ++ after, isBlankLine line = true) ∧
        isBlankLine header = false ∧ data.getLast?.map isBlankLine = some false ∧
        table.headers = header.row ∧
        table.rows = data.map Line.row := by
  have hread := hvalid.read_text (isSeparator_of_mem hsep)
  refine ⟨hread, fun kind encoding separator htwo => ?_⟩
  obtain ⟨before, header, between, last, after, hlines, hblank, hheader, hlast⟩ :=
    exists_first_last_of_countP htwo
  simp only [Bool.not_eq_true', Bool.not_eq_false'] at hblank hheader hlast
  have hfilled : List.isEmpty last = false := by
    cases last with
    | nil => cases hlast
    | cons cell cells => rfl
  have hrows : read sep (layout.text sep) = before.map Line.row ++
      header.row :: (between.map Line.row ++ last.row ::
        (after.rdropWhile List.isEmpty).map Line.row) := by
    have hdrop := rdropWhile_append_cons hfilled (before ++ header :: between) after
    rw [hread, hlines]
    simpa using congrArg (List.map Line.row) hdrop
  have hbefore : ∀ row ∈ before.map Line.row, Table.isBlankRow row = true := by
    intro row hrow
    obtain ⟨line, hline, rfl⟩ := List.mem_map.1 hrow
    exact hblank line (List.mem_append_left after hline)
  have hafter : ∀ row ∈ (after.rdropWhile List.isEmpty).map Line.row, Table.isBlankRow row = true := by
    intro row hrow
    obtain ⟨line, hline, rfl⟩ := List.mem_map.1 hrow
    exact hblank line (List.mem_append_right before ((List.rdropWhile_prefix _ _).subset hline))
  refine ⟨⟨kind, header.row, (between ++ [last]).map Line.row, encoding, separator⟩, before, header,
    between ++ [last], after, ?_, by simpa using hlines, hblank, hheader, by simpa using hlast, rfl,
    rfl⟩
  have hend : Table.isBlankRow last.row = false := hlast
  rw [hrows, Table.ofRows_eq_ok hbefore hheader ⟨last.row, by simp, hend⟩,
    rdropWhile_append_cons hend, List.rdropWhile_eq_nil_iff.2 hafter, List.map_append]
  rfl

/-- Empty lines with three kinds of line ends, a cell of two lines, and a blank record. -/
theorem lines_keep_their_places_after_mixed_ends :
    let layout : Layout :=
      ⟨[([], .crlf), ([.plain ['a'], .quoted ['b', '\n', '"']], .cr), ([], .crlf),
        ([.plain [], .plain [' ']], .lf), ([], .lf), ([.plain ['c', '"']], .cr), ([], .crlf)], []⟩
    read ';' (layout.text ';') = [[], ["a", "b\n\""], [], ["", ""], [], ["c\""]] ∧
    ∃ (table : Table) (data : List Line),
      Table.ofRows .csv (read ';' (layout.text ';')) none none = .ok table ∧
      table.rows = data.map Line.row := by
  intro layout
  have hlines : ∀ line ∈ layout.lines, line.IsValid ';' := by
    simp [layout, lines, Line.isValid_iff, Spelling.IsValid, isLineEnd, Line.text, Spelling.text,
      quoteCell]
  have hvalid : layout.IsValid ';' := ⟨hlines, by decide, by decide⟩
  obtain ⟨hread, htable⟩ := lines_keep_their_places (by decide) hvalid
  obtain ⟨table, _, _, data, _, hrows, _, _, _, _, _, hdata⟩ := htable .csv none none (by decide)
  exact ⟨hread.trans (by decide), table, data, hrows, hdata⟩

end Delimited.Layout

end AddressIntake
